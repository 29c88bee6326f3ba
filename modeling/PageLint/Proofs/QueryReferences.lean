import PageLint.PageRule
import PageLint.Proofs.ByteOrder
import PageLint.Proofs.Ordering
import PageLint.Proofs.ScanCoverage

/-!
# References between components and query blocks

A text refers to a query by a mark, a word and a closing brace: `data={name}` for a component and
`${name}` for another query. A scan for such references overlooks none, although it goes on behind
each one that it finds: no reference begins inside another (`Rule.reference_inside`). So the names
that are found are the names that stand anywhere in the text behind a mark
(`Rule.mem_namesOf_iff`), and the findings about references can be said without any scan.

## Main results

* `Rule.mem_namesOf_iff`: the names that are found are those that are referred to.
* `Rule.findingsOf_queryReferences`: **the findings about references**, name by name.
-/

namespace PageLint

namespace Rule

/-! ### References -/

/-- A word: one or more word characters. -/
def IsWord (n : Text) : Prop := n ≠ [] ∧ ∀ c ∈ n, isWordChar c = true

instance : DecidablePred IsWord := fun n =>
  decidable_of_iff ((!n.isEmpty && n.all isWordChar) = true) (by simp [IsWord])

/-- Reads a reference: a mark, a word and a closing brace. -/
def reference (mark : Text) : Reader Text := fun _ t => do
  let t ← Text.after? mark t
  let (name, t) ← Text.readWord? t
  let t ← Text.after? ['}'] t
  return (name, t)

/-- The mark in front of the name of a query that a component shows. -/
def dataMark : Text := "data=\x7b".toList

/-- The mark in front of the name of a query that another query is composed of. -/
def compositionMark : Text := ['$', '{']

/-- References by attributes are read behind their mark. -/
theorem dataReference_eq : dataReference = reference dataMark := rfl

/-- References by composition are read behind their mark. -/
theorem compositionReference_eq : compositionReference = reference compositionMark := rfl

/-- The text refers to a word: the mark, the word and a closing brace stand somewhere in it. -/
def RefersTo (mark t n : Text) : Prop := IsWord n ∧ mark ++ (n ++ ['}']) <:+: t

/-- A mark that cannot begin inside a reference: its first character is not repeated, and it has a
character that is neither in words nor the closing brace. -/
structure IsMark (mark : Text) : Prop where
  /-- The first character does not occur again. -/
  first : ∃ c rest, mark = c :: rest ∧ c ∉ rest
  /-- The mark is no word. -/
  notWord : ∃ c ∈ mark, isWordChar c = false
  /-- The mark does not close a reference. -/
  noEnd : '}' ∉ mark

/-- The start of a reference by attribute is a mark. -/
theorem isMark_dataMark : IsMark dataMark :=
  ⟨⟨'d', _, rfl, by decide⟩, ⟨'=', by decide, by decide +kernel⟩, by decide⟩

/-- The start of a reference by composition is a mark. -/
theorem isMark_compositionMark : IsMark compositionMark :=
  ⟨⟨'$', _, rfl, by decide⟩, ⟨'$', by decide, by decide +kernel⟩, by decide⟩

variable {mark : Text}

/-- What stands at the head of a text is a reference when it has the form of one. -/
theorem reference_eq_some_iff {before : Option Char} {t n rest : Text} :
    reference mark before t = some (n, rest) ↔ IsWord n ∧ t = mark ++ (n ++ '}' :: rest) := by
  have hbrace : isWordChar '}' = false := by decide +kernel
  simp only [reference, bind, Option.bind_eq_some_iff, Prod.exists, Text.after?_eq_some_iff,
    Text.readWord?_eq_some_iff]
  constructor
  · rintro ⟨_, rfl, n', _, ⟨hne, hword, rfl, -⟩, rest', rfl, hpair⟩
    obtain ⟨rfl, rfl⟩ : n' = n ∧ rest' = rest := by simpa using hpair
    exact ⟨⟨hne, hword⟩, rfl⟩
  · rintro ⟨⟨hne, hword⟩, rfl⟩
    refine ⟨_, rfl, n, _, ⟨hne, hword, rfl, ?_⟩, rest, rfl, rfl⟩
    intro c hc
    obtain rfl := Option.some.inj hc
    exact hbrace

/-- Reading a reference takes something off. -/
theorem reference_consumes (hmark : IsMark mark) : (reference mark).Consumes := by
  intro before t n rest hread
  obtain ⟨-, rfl⟩ := reference_eq_some_iff.mp hread
  obtain ⟨c, m, rfl, -⟩ := hmark.first
  exact ⟨c :: m ++ (n ++ ['}']), List.cons_ne_nil _ _, by simp⟩

/-- A mark is not read where word characters and a closing brace stand. -/
theorem IsMark.ne_append (hmark : IsMark mark) {w : Text} (hw : ∀ c ∈ w, isWordChar c = true)
    (ahead u : Text) : w ++ '}' :: ahead ≠ mark ++ u := by
  obtain ⟨c, hc, hnot⟩ := hmark.notWord
  have hcw : c ∉ w := fun hmem => absurd (hw c hmem) (by simp [hnot])
  intro heq
  rcases List.append_eq_append_iff.mp heq with ⟨m, rfl, hm⟩ | ⟨m, rfl, -⟩
  · cases m with
    | nil => exact hcw (List.append_nil w ▸ hc)
    | cons d m =>
        obtain ⟨rfl, -⟩ := List.cons.inj hm
        exact hmark.noEnd (List.mem_append_right w List.mem_cons_self)
  · exact hcw (List.mem_append_left m hc)

/-- **No mark begins inside a reference** whose own mark has the first character of that mark at most at
its head. -/
theorem IsMark.inside_ne {mark' : Text} (hmark' : IsMark mark')
    (hhead : ∀ c ∈ mark.tail, mark'.head? ≠ some c) {n inner outer : Text} (hn : IsWord n)
    (hinner : inner ≠ []) (houter : outer ≠ []) (hsource : mark ++ (n ++ ['}']) = inner ++ outer)
    (ahead u : Text) : outer ++ ahead ≠ mark' ++ u := by
  intro hstart
  have hbehind : ∀ passed, n ++ ['}'] = passed ++ outer → False := by
    intro passed hpassed
    have hword : n = passed ++ outer.dropLast := by
      rw [← List.dropLast_append_of_ne_nil houter, ← hpassed, List.dropLast_concat]
    have hlast : outer.dropLast ++ ['}'] = outer := by
      rw [hword, List.append_assoc] at hpassed
      exact List.append_cancel_left hpassed
    have htail : ∀ c ∈ outer.dropLast, isWordChar c = true := fun c hc =>
      hn.2 c (hword ▸ List.mem_append_right passed hc)
    refine hmark'.ne_append htail ahead u (Eq.trans ?_ hstart)
    rw [← List.singleton_append, ← List.append_assoc, hlast]
  rcases List.append_eq_append_iff.mp hsource with ⟨passed, -, hpassed⟩ | ⟨m, rfl, rfl⟩
  · exact hbehind passed hpassed
  · cases m with
    | nil => exact hbehind [] rfl
    | cons d m =>
        obtain ⟨e, inner, rfl⟩ := List.exists_cons_of_ne_nil hinner
        obtain ⟨c, tail, hc, -⟩ := hmark'.first
        rw [hc, List.cons_append] at hstart
        obtain rfl := (List.cons.inj hstart).1
        exact hhead d (by simp) (by rw [hc, List.head?_cons])

/-- **No reference begins inside another.** -/
theorem reference_inside (hmark : IsMark mark) {n inner outer : Text} (hn : IsWord n)
    (hinner : inner ≠ []) (houter : outer ≠ []) (hsource : mark ++ (n ++ ['}']) = inner ++ outer)
    (before : Option Char) (ahead : Text) : reference mark before (outer ++ ahead) = none := by
  have hhead : ∀ c ∈ mark.tail, mark.head? ≠ some c := by
    obtain ⟨c, tail, rfl, hfirst⟩ := hmark.first
    rintro d hd heq
    obtain rfl := Option.some.inj heq
    exact hfirst hd
  rw [Option.eq_none_iff_forall_ne_some]
  rintro ⟨n', rest⟩ hread
  obtain ⟨-, hstart⟩ := reference_eq_some_iff.mp hread
  exact hmark.inside_ne hhead hn hinner houter hsource ahead _ hstart

/-- What a fragment that was read as a reference is made of. -/
theorem source_of_mem_hits (hmark : IsMark mark) {t : Text} {h : Hit Text}
    (hmem : h ∈ t.hits (reference mark)) :
    IsWord h.value ∧ h.source = mark ++ (h.value ++ ['}']) ∧
      t = h.behind.reverse ++ (h.source ++ h.ahead) := by
  obtain ⟨-, hread, ht⟩ := Text.read_of_mem_hits (reference_consumes hmark) hmem
  obtain ⟨hword, hsource⟩ := reference_eq_some_iff.mp hread
  refine ⟨hword, List.append_cancel_right (hsource.trans ?_), ht⟩
  simp

/-- **The names that are found are those that are referred to.** -/
theorem mem_namesOf_iff (hmark : IsMark mark) {t n : Text} :
    n ∈ namesOf (reference mark) t ↔ RefersTo mark t n := by
  rw [namesOf, Ascending.mem_ofList_iff, List.mem_map]
  constructor
  · rintro ⟨h, hmem, rfl⟩
    obtain ⟨hword, hsource, ht⟩ := source_of_mem_hits hmark hmem
    exact ⟨hword, h.behind.reverse, h.ahead, by rw [ht, hsource, List.append_assoc]⟩
  · rintro ⟨hword, front, back, ht⟩
    have hread : reference mark front.reverse.head? (mark ++ (n ++ ['}']) ++ back) =
        some (n, back) := reference_eq_some_iff.mpr ⟨hword, by simp⟩
    have hne : mark ++ (n ++ ['}']) ++ back ≠ [] := by simp
    obtain ⟨h, hmem, inner, outer, houter, hsource, hback, -, hvalue⟩ :=
      Text.exists_hit_of_read (reference_consumes hmark) hne hread
    rw [← List.append_assoc, ht] at hmem
    cases inner with
    | nil =>
        have hname : n = h.value := congrArg (·.1) (hvalue rfl)
        exact ⟨h, hmem, hname.symm⟩
    | cons d inner =>
        obtain ⟨hword', hsource', -⟩ := source_of_mem_hits hmark hmem
        have hinside := reference_inside hmark hword' (List.cons_ne_nil d inner) houter
          (hsource' ▸ hsource) front.reverse.head? h.ahead
        rw [← hback, hread] at hinside
        cases hinside

instance (t n : Text) : Decidable (RefersTo dataMark t n) :=
  decidable_of_iff _ (mem_namesOf_iff isMark_dataMark)

instance (t n : Text) : Decidable (RefersTo compositionMark t n) :=
  decidable_of_iff _ (mem_namesOf_iff isMark_compositionMark)

/-! ### Findings about references -/

/-- What is said of a query that a component shows and no block defines. -/
def undefinedQuery (n : Text) : Notice :=
  .error "COMPONENT_QUERY_REF" ("Component references data=\x7b" ++ n.str ++
    "\x7d but no 'sql " ++ n.str ++
    "' block is defined; the chart will render blank. Define the query or fix the name.")

/-- What is said of a query that is defined and that nothing refers to. -/
def unusedQuery (n : Text) : Notice :=
  .warn "COMPONENT_QUERY_REF" ("SQL block '" ++ n.str ++
    "' is defined but never referenced by any component or query composition; dead query, or a data= attribute was renamed without updating the block")

/-- What is said of a query that is defined `k` times. -/
def repeatedQuery (n : Text) (k : Nat) : Notice :=
  .error "SQL_DUPLICATE_QUERY" ("Query '" ++ n.str ++ "' is defined " ++ toString k ++
    " times; query names must be unique on a page")

/-- Two notices of unused queries are about one query when they are the same. -/
theorem unusedQuery_inj {n n' : Text} (h : unusedQuery n = unusedQuery n') : n = n' := by
  have hmessage := congrArg (fun notice => notice.message.toList) h
  simpa [unusedQuery, Notice.warn, Text.str] using hmessage

/-- Two notices of undefined queries are about one query when they are the same: the name stands twice in
the message, so that the messages tell its length. -/
theorem undefinedQuery_inj {n n' : Text} (h : undefinedQuery n = undefinedQuery n') : n = n' := by
  have hmessage := congrArg (fun notice => notice.message.toList) h
  simp only [undefinedQuery, Notice.error, Text.str, String.toList_append, String.toList_ofList,
    List.append_assoc] at hmessage
  have hbehind := List.append_cancel_left hmessage
  have hlength : n.length = n'.length := by
    have hwhole := congrArg List.length hbehind
    simp only [List.length_append] at hwhole
    omega
  exact List.append_inj_left hbehind hlength

section

variable (page : Page)

/-- The names of the query blocks of a page, as often as they are defined. -/
def definedNames : List Text := page.queries.map (·.name)

/-- The names that components refer to and no block defines. -/
def undefinedNames : List Text :=
  (namesOf dataReference page.text).filter (!(Ascending.ofList (definedNames page)).contains ·)

/-- The names of blocks that nothing refers to, on a page that displays something. -/
def unusedNames : List Text :=
  if page.hasTag (·.isDisplay) then
    (Ascending.ofList (definedNames page)).filter fun n =>
      !(namesOf dataReference page.text).contains n &&
        !(namesOf compositionReference page.text).contains n
  else []

/-- The names of blocks that are defined more than once. -/
def repeatedNames : List Text :=
  (Ascending.ofList (definedNames page)).filter fun n => 1 < (definedNames page).count n

/-- The rule goes through three lists of names. -/
theorem queryReferences_eq (checker : Checker) :
    queryReferences checker page = (undefinedNames page).map undefinedQuery ++
      (unusedNames page).map unusedQuery ++
      (repeatedNames page).map fun n => repeatedQuery n ((definedNames page).count n) := rfl

variable {page} {n : Text}

/-- The undefined names are those that the page refers to and no block defines. -/
theorem mem_undefinedNames_iff :
    n ∈ undefinedNames page ↔ RefersTo dataMark page.text n ∧ n ∉ definedNames page := by
  rw [undefinedNames, dataReference_eq, List.mem_filter, mem_namesOf_iff isMark_dataMark,
    Bool.not_eq_true', ← Bool.not_eq_true, List.contains_iff_mem, Ascending.mem_ofList_iff]

/-- The unused names, on a page that displays something, are those of blocks that the page does not refer
to. -/
theorem mem_unusedNames_iff :
    n ∈ unusedNames page ↔ (∃ tag ∈ page.tags, tag.kind.isDisplay = true) ∧ n ∈ definedNames page ∧
      ¬RefersTo dataMark page.text n ∧ ¬RefersTo compositionMark page.text n := by
  have hdisplay : page.hasTag (·.isDisplay) = true ↔
      ∃ tag ∈ page.tags, tag.kind.isDisplay = true := by
    rw [Page.hasTag, List.any_eq_true]
  rw [unusedNames, ← hdisplay]
  split
  · next h =>
    simp [h, dataReference_eq, compositionReference_eq, Ascending.mem_ofList_iff,
      mem_namesOf_iff isMark_dataMark, mem_namesOf_iff isMark_compositionMark]
  · next h => simp [h]

/-- The repeated names are those that more than one block defines. -/
theorem mem_repeatedNames_iff : n ∈ repeatedNames page ↔ 1 < (definedNames page).count n := by
  rw [repeatedNames, List.mem_filter, Ascending.mem_ofList_iff, decide_eq_true_eq]
  refine ⟨fun h => h.2, fun h => ⟨?_, h⟩⟩
  exact List.count_pos_iff.mp (Nat.lt_of_succ_lt h)

/-- The rule says of a query that it is unused when nothing refers to it. Of its three lists the other two
are of errors. -/
theorem unusedQuery_mem_iff {checker : Checker} :
    unusedQuery n ∈ queryReferences checker page ↔ n ∈ unusedNames page := by
  have herror : Severity.error ≠ Severity.warn := by decide
  rw [queryReferences_eq, List.mem_append, List.mem_append]
  constructor
  · rintro ((hundefined | hunused) | hrepeated)
    · obtain ⟨n', -, heq⟩ := List.mem_map.mp hundefined
      exact absurd (congrArg Notice.severity heq) herror
    · obtain ⟨n', hn', heq⟩ := List.mem_map.mp hunused
      exact unusedQuery_inj heq ▸ hn'
    · obtain ⟨n', -, heq⟩ := List.mem_map.mp hrepeated
      exact absurd (congrArg Notice.severity heq) herror
  · exact fun hn => Or.inl (Or.inr (List.mem_map_of_mem hn))

/-- The rule says of a query that it is undefined when something refers to it and no block defines
it. -/
theorem undefinedQuery_mem_iff {checker : Checker} :
    undefinedQuery n ∈ queryReferences checker page ↔ n ∈ undefinedNames page := by
  have hrule : ∀ n' k, repeatedQuery n' k ≠ undefinedQuery n := fun n' k h =>
    absurd (congrArg Notice.rule h) (by decide : "SQL_DUPLICATE_QUERY" ≠ "COMPONENT_QUERY_REF")
  have hseverity : ∀ n', unusedQuery n' ≠ undefinedQuery n := fun n' h =>
    absurd (congrArg Notice.severity h) (by decide : Severity.warn ≠ Severity.error)
  rw [queryReferences_eq, List.mem_append, List.mem_append]
  constructor
  · rintro ((hundefined | hunused) | hrepeated)
    · obtain ⟨n', hn', heq⟩ := List.mem_map.mp hundefined
      exact undefinedQuery_inj heq ▸ hn'
    · obtain ⟨n', -, heq⟩ := List.mem_map.mp hunused
      exact absurd heq (hseverity n')
    · obtain ⟨n', -, heq⟩ := List.mem_map.mp hrepeated
      exact absurd heq (hrule n' _)
  · exact fun hn => Or.inl (Or.inl (List.mem_map_of_mem hn))

/-- Names in ascending order of their bytes, none twice. -/
def Ascend (names : List Text) : Prop := names.Pairwise fun a b => a.utf8 < b.utf8

/-- The names of blocks in ascending order do ascend. -/
theorem ascend_ofList (names : List Text) : Ascend (Ascending.ofList names) :=
  (Ascending.pairwise_ofList names).imp Text.utf8_lt_utf8

/-- Undefined names are in ascending order, each once. -/
theorem ascend_undefinedNames (page : Page) : Ascend (undefinedNames page) :=
  (ascend_ofList _).filter _

/-- Unused names are in ascending order, each once. -/
theorem ascend_unusedNames (page : Page) : Ascend (unusedNames page) := by
  rw [unusedNames]
  split
  · exact (ascend_ofList _).filter _
  · exact List.Pairwise.nil

/-- Repeated names are in ascending order, each once. -/
theorem ascend_repeatedNames (page : Page) : Ascend (repeatedNames page) :=
  (ascend_ofList _).filter _

end

/-- **The findings about references are complete and exact.** There are, in this order and with
nothing else: one about each name that is referred to as `data={name}` and not defined; on a page
that displays something, one about each name that is defined and referred to neither as `data={name}`
nor as `${name}`; and one about each name that is defined more than once, which says how often. Each
of the three lists of names ascends, so that it names no query twice. -/
theorem findingsOf_queryReferences (checker : Checker) (page : Page) :
    let names := page.queries.map (·.name)
    ∃ undefined unused repeated : List Text,
      checker.findingsOf .queryReferences page =
        (undefined.map undefinedQuery ++ unused.map unusedQuery ++
          repeated.map fun n => repeatedQuery n (names.count n)).map (·.inFile page.path) ∧
      (Ascend undefined ∧ Ascend unused ∧ Ascend repeated) ∧
      (∀ n, n ∈ undefined ↔ RefersTo dataMark page.text n ∧ n ∉ names) ∧
      (∀ n, n ∈ unused ↔ (∃ tag ∈ page.tags, tag.kind.isDisplay = true) ∧ n ∈ names ∧
        ¬RefersTo dataMark page.text n ∧ ¬RefersTo compositionMark page.text n) ∧
      ∀ n, n ∈ repeated ↔ 1 < names.count n := by
  intro names
  refine ⟨undefinedNames page, unusedNames page, repeatedNames page, ?_,
    ⟨ascend_undefinedNames page, ascend_unusedNames page, ascend_repeatedNames page⟩,
    fun n => mem_undefinedNames_iff, fun n => mem_unusedNames_iff, fun n => mem_repeatedNames_iff⟩
  exact congrArg (List.map _) (queryReferences_eq page checker)

end Rule

end PageLint
