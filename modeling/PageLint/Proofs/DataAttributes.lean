import PageLint.Proofs.AttributePlaces
import PageLint.Proofs.BuiltinCheckers
import PageLint.Proofs.QueryReferences
import PageLint.Proofs.TagSpans

/-!
# References by `data` attributes

A tag uses the query that its `data` attribute spells, and an attribute has many spellings: with quotes,
with braces, with blanks. The rule about references does not read attributes. It searches the page for
`data={name}`, which is one of these spellings.

To say where the two agree, the first `data` attribute of a tag is looked at as it stands in the page
(`Rule.DataAttribute`). A reference to its query is written there only if the attribute is the reference,
character by character (`Rule.DataAttribute.refersTo_iff`). No reference crosses its ends: the name and the
equals sign cannot begin inside a reference, and the value ends where no reference goes on.

## Main results

* `Rule.DataAttribute.refersTo_iff`: **where a page refers to the query of a tag**.
* `Rule.queryReferences_dataAttribute`: **when the rule agrees with the tags**, for every spelling.
-/

namespace PageLint.Rule

open Attributes (Spells EndsValue braced)

/-! ### Words in values -/

/-- Blanks in front of a character that is none are none. -/
theorem eq_nil_of_append_eq {blanks t u : Text} (hblanks : ∀ d ∈ blanks, isAsciiSpace d = true) {c : Char}
    (hc : isAsciiSpace c = false) (h : blanks ++ t = c :: u) : blanks = [] := by
  cases blanks with
  | nil => rfl
  | cons d blanks =>
      obtain rfl := (List.cons.inj h).1
      exact absurd (hblanks d List.mem_cons_self) (by rw [hc]; decide)

/-- The characters that wrap values and end attributes are not in words. -/
theorem ne_of_isWordChar {c d : Char} (h : isWordChar c = true)
    (hd : d ∈ "'\"`\x7b\x7d=/>".toList) : c ≠ d := by
  have hnone : ∀ e ∈ "'\"`\x7b\x7d=/>".toList, (!isWordChar e) = true :=
    List.all_eq_true.mp (by decide +kernel)
  rintro rfl
  exact absurd (hnone c hd) (by rw [h]; decide)

/-- Words have no quotes. -/
theorem not_isQuote_of_isWordChar {c : Char} (h : isWordChar c = true) : ¬Attributes.IsQuote c := by
  rintro (rfl | rfl)
  · exact ne_of_isWordChar h (by decide) rfl
  · exact ne_of_isWordChar h (by decide) rfl

/-- A word and a closing brace are the end of an expression in braces. -/
theorem readBraces_word {n : Text} (hn : ∀ c ∈ n, isWordChar c = true) (u : Text) :
    Attributes.readBraces 1 none (n ++ '}' :: u) = (n ++ ['}'], u) := by
  induction n with
  | nil => rfl
  | cons c n ih =>
      obtain ⟨hc, hn⟩ := List.forall_mem_cons.mp hn
      have hmark : ¬(c = '\'' ∨ c = '"' ∨ c = '`') := by
        rintro (h | h | h) <;> exact ne_of_isWordChar hc (by decide) h
      have hopen : c ≠ '{' := ne_of_isWordChar hc (by decide)
      have hclose : c ≠ '}' := ne_of_isWordChar hc (by decide)
      simp only [List.cons_append, Attributes.readBraces, if_neg hmark, if_neg hopen, if_neg hclose,
        ih hn]

/-- A value that begins with a word in braces ends behind them. -/
theorem eq_braced_of_endsValue {n v behind u : Text} (h : EndsValue v behind) (hn : IsWord n)
    (heq : v ++ behind = braced n ++ u) : v = braced n := by
  have hread : Attributes.readValue (braced n ++ u) = (braced n, u) := by
    have hrest := readBraces_word hn.2 u
    rw [braced, List.cons_append, List.append_assoc, List.singleton_append]
    show ('{' :: (Attributes.readBraces 1 none (n ++ '}' :: u)).1,
      (Attributes.readBraces 1 none (n ++ '}' :: u)).2) = _
    rw [hrest]
  have hown := h.readValue_append
  rw [heq, hread] at hown
  exact (Prod.mk.inj hown).1.symm

/-- What ends the attributes of a tag is not in a word in braces. -/
theorem notMem_braced {n : Text} (hn : IsWord n) {c : Char}
    (hc : c = '/' ∨ c = '>' ∨ isSpace c = true) : c ∉ braced n := by
  have hword : c ∉ n := fun hmem => by
    have hchar := hn.2 c hmem
    rcases hc with rfl | rfl | hspace
    · exact ne_of_isWordChar hchar (by decide) rfl
    · exact ne_of_isWordChar hchar (by decide) rfl
    · exact absurd hspace (by rw [not_isSpace_of_isWordChar hchar]; decide)
  have hbraces : c ≠ '{' ∧ c ≠ '}' := by
    refine ⟨?_, ?_⟩ <;>
    · rintro rfl
      exact absurd hc (by decide)
  simp [braced, hword, hbraces]

/-- What ends the attributes of a tag is not in the name `data` and not an equals sign. -/
theorem notMem_nameSign {c : Char} (hc : c = '/' ∨ c = '>' ∨ isSpace c = true) :
    c ∉ "data=".toList := by
  intro hmem
  rcases hc with rfl | rfl | hspace
  · exact absurd hmem (by decide)
  · exact absurd hmem (by decide)
  · have hnone : ∀ d ∈ "data=".toList, (!isSpace d) = true := List.all_eq_true.mp (by decide)
    exact absurd (hnone c hmem) (by rw [hspace]; decide)

/-! ### The attribute in its page -/

/-- The first `data` attribute of a tag, as it stands in the text of a page. -/
structure DataAttribute (page : Page) (tag : Tag) where
  /-- The text in front of the attribute. -/
  front : Text
  /-- The blanks in front of the equals sign. -/
  before : Text
  /-- The blanks behind the equals sign. -/
  behind : Text
  /-- The value as it is written. -/
  value : Text
  /-- The text behind the attribute. -/
  back : Text
  /-- No attribute of that name stands before it in the tag. -/
  first : (Attributes.pieces tag.raw).find? (·.isNamed "data") =
    some (.valued "data".toList before behind value)
  /-- The place of the attribute in the page. -/
  text : page.text = front ++ ("data".toList ++ (before ++ '=' :: (behind ++ value)) ++ back)
  /-- That place is in the tag. -/
  inTag : tag.start < Text.utf8Size front ∧ Text.utf8Size page.text < tag.stop + Text.utf8Size back
  /-- There is nothing but blanks in front of the equals sign. -/
  blankBefore : ∀ c ∈ before, isAsciiSpace c = true
  /-- There is nothing but blanks between the equals sign and the value. -/
  blankBehind : ∀ c ∈ behind, isAsciiSpace c = true
  /-- The value goes as far as it can, but not beyond the attributes of the tag, which end at a slash, a
  blank or the end of the tag. -/
  ends : ∃ rest c ahead, back = rest ++ c :: ahead ∧ EndsValue value rest ∧
    (c = '/' ∨ c = '>' ∨ isSpace c = true)

variable {page : Page} {tag : Tag} {n : Text}

/-- A tag with a query has a `data` attribute that spells its name. -/
theorem exists_dataAttribute (htag : tag ∈ page.tags) (hne : n ≠ [])
    (hdata : tag.bare? "data" = some n) : ∃ d : DataAttribute page tag, Spells n d.value := by
  obtain ⟨value, hget, hvalue⟩ := Option.map_eq_some_iff.mp hdata
  rw [Tag.attributes, Attributes.get?_eq_bind_find?] at hget
  obtain ⟨p, hfind, hpair⟩ := Option.bind_eq_some_iff.mp hget
  have hname := List.find?_some hfind
  cases p with
  | stray | spread => cases hpair
  | flag name =>
      obtain rfl := Option.some.inj hpair
      exact absurd hvalue.symm hne
  | valued name before behind value' =>
      obtain rfl := Option.some.inj hpair
      obtain rfl : name = "data".toList :=
        by simpa [Attributes.Piece.isNamed, Attributes.Piece.pair?] using hname
      obtain ⟨front, rest, hraw, hbefore, hbehind, hends⟩ :=
        Attributes.exists_valued_of_mem_pieces (List.mem_of_find?_eq_some hfind)
      obtain ⟨outside, c, ahead, htext, ⟨hstart, hstop⟩, hc⟩ := Tag.exists_eq_raw htag
      refine ⟨⟨outside ++ front, before, behind, _, rest ++ c :: ahead, hfind, ?_, ⟨?_, ?_⟩, hbefore,
        hbehind, rest, c, ahead, rfl, hends, hc⟩, Attributes.spells_of_bareValue hvalue⟩
      · rw [htext, hraw]
        simp [Attributes.Piece.text]
      · rw [Text.utf8Size_append]
        omega
      · rw [htext]
        simp only [Text.utf8Size_append] at hstop ⊢
        omega

namespace DataAttribute

variable (d : DataAttribute page tag)

/-- The attribute as it is written. -/
def written : Text := "data".toList ++ (d.before ++ '=' :: (d.behind ++ d.value))

/-- The attribute is written as the first piece with its name. -/
theorem written_eq_text {p : Attributes.Piece}
    (h : (Attributes.pieces tag.raw).find? (·.isNamed "data") = some p) : d.written = p.text := by
  obtain rfl := Option.some.inj (d.first.symm.trans h)
  rfl

/-- The page is what stands before the attribute, the attribute, and what stands behind it. -/
theorem page_text : page.text = d.front ++ (d.written ++ d.back) := by
  rw [d.text, written, List.append_assoc]

/-- The name of the attribute and its equals sign. -/
def head : Text := 'd' :: ("ata".toList ++ (d.before ++ ['=']))

/-- Behind its head the attribute has the blanks and the value. -/
theorem written_eq_append : d.written = d.head ++ (d.behind ++ d.value) := by
  rw [written, head, List.cons_append, List.append_assoc, List.append_assoc, List.singleton_append]
  rfl

/-- Only blanks stand between the name and the equals sign. -/
theorem notMem_head {c : Char} (hname : c ∉ "ata".toList) (hsign : c ≠ '=')
    (hblank : isAsciiSpace c = false) : c ∉ "ata".toList ++ (d.before ++ ['=']) := by
  rw [List.mem_append, List.mem_append, List.mem_singleton]
  rintro (h | h | h)
  · exact hname h
  · exact absurd (d.blankBefore c h) (by rw [hblank]; decide)
  · exact hsign h

/-- The head of the attribute is a mark, like that of a reference. -/
theorem isMark_head : IsMark d.head := by
  refine ⟨⟨'d', _, rfl, d.notMem_head (by decide) (by decide) (by decide)⟩, ⟨'=', ?_, ?_⟩, ?_⟩
  · exact List.mem_cons_of_mem _ (List.mem_append_right _ (List.mem_append_right _ List.mem_cons_self))
  · decide +kernel
  · rw [head, List.mem_cons, not_or]
    exact ⟨by decide, d.notMem_head (by decide) (by decide) (by decide)⟩

/-! ### References at the ends of the attribute -/

/-- A value in front of a word in braces is that word in braces, which does not go on behind the
attributes of the tag. -/
theorem value_eq (hn : IsWord n) {u : Text} (h : d.value ++ d.back = braced n ++ u) :
    d.value = braced n := by
  obtain ⟨rest, c, ahead, hback, hends, hc⟩ := d.ends
  rw [hback, ← List.append_assoc] at h
  obtain ⟨u', rfl⟩ := Text.exists_of_append_eq_of_notMem (notMem_braced hn hc) h.symm
  rw [← List.append_assoc] at h
  exact eq_braced_of_endsValue hends hn (List.append_cancel_right h)

/-- A reference where the attribute begins is the attribute. -/
theorem written_eq (hn : IsWord n) {u : Text}
    (h : d.written ++ d.back = dataMark ++ (n ++ ['}']) ++ u) : d.written = dataMark ++ (n ++ ['}']) := by
  have hmark : dataMark ++ (n ++ ['}']) ++ u = "data".toList ++ '=' :: (braced n ++ u) := rfl
  rw [hmark, written, List.append_assoc, List.append_assoc, List.cons_append, List.append_assoc] at h
  have hsign := List.append_cancel_left h
  have hbefore := eq_nil_of_append_eq d.blankBefore (by decide) hsign
  rw [hbefore] at hsign
  have hopen := (List.cons.inj hsign).2
  have hbehind := eq_nil_of_append_eq d.blankBehind (by decide) hopen
  rw [hbehind] at hopen
  rw [written, hbefore, hbehind, d.value_eq hn hopen]
  rfl

/-- No reference begins before the attribute and ends in it or behind it. -/
theorem not_inside (hn : IsWord n) {inner outer : Text} (hinner : inner ≠ []) (houter : outer ≠ [])
    (hsource : dataMark ++ (n ++ ['}']) = inner ++ outer) (u : Text) :
    d.written ++ d.back ≠ outer ++ u := by
  have hfirst : ∀ c ∈ dataMark.tail, d.head.head? ≠ some c := by
    intro c hc heq
    obtain rfl : 'd' = c := Option.some.inj heq
    exact absurd hc (by decide)
  rw [d.written_eq_append, List.append_assoc]
  exact (d.isMark_head.inside_ne hfirst hn hinner houter hsource u _).symm

/-- A value that ends with a word character is not wrapped, so that a slash, a blank or the end of the tag
follows. -/
theorem ends_of_getLast? (hn : IsWord n) (hspells : Spells n d.value) {last next : Char}
    (hlast : d.value.getLast? = some last) (hword : isWordChar last = true)
    (hnext : d.back.head? = some next) : next = '/' ∨ next = '>' ∨ isSpace next = true := by
  have hpadded := hspells.isPadded_of_getLast? hlast (not_isQuote_of_isWordChar hword)
    (ne_of_isWordChar hword (by decide)) (not_isSpace_of_isWordChar hword)
  have hhead : ∀ c, d.value.head? = some c → ¬Attributes.IsQuote c ∧ c ≠ '{' := by
    intro c hc
    have hmem := List.mem_of_mem_head? hc
    refine ⟨fun hquote => hpadded.notMem (fun hcn => ?_) hquote.not_isSpace hmem, ?_⟩
    · exact not_isQuote_of_isWordChar (hn.2 c hcn) hquote
    · rintro rfl
      exact hpadded.notMem (fun hcn => ne_of_isWordChar (hn.2 _ hcn) (by decide) rfl) (by decide) hmem
  obtain ⟨rest, c, ahead, hrest, hends, hc⟩ := d.ends
  rw [hrest] at hnext
  cases rest with
  | nil => exact Option.some.inj hnext ▸ hc
  | cons b rest =>
      have hblank := hends.isAsciiSpace_of_head? hhead (List.head?_cons ..)
      exact Option.some.inj hnext ▸ .inr (.inr (isSpace_of_isAsciiSpace hblank))

/-- No reference begins in the value. A spelling has no equals sign, so the value would end within the
name `data`, and the rest of the name does not follow a value that ends so. -/
theorem not_in_value (hn : IsWord n) (hspells : Spells n d.value) {front tail : Text}
    (hvalue : d.value = front ++ tail) (hne : tail ≠ []) (u : Text) :
    dataMark ++ (n ++ ['}']) ++ u ≠ tail ++ d.back := by
  intro heq
  have hequals : '=' ∉ tail := fun hmem =>
    hspells.notMem (fun hcn => ne_of_isWordChar (hn.2 _ hcn) (by decide) rfl) (by decide) (by decide)
      (by decide) (hvalue ▸ List.mem_append_right front hmem)
  have hmark : dataMark ++ (n ++ ['}']) ++ u = "data".toList ++ '=' :: (braced n ++ u) := rfl
  rw [hmark] at heq
  obtain ⟨w, hback⟩ := Text.exists_of_append_eq_of_notMem hequals heq.symm
  have hdata : "data".toList = tail ++ w := by
    rw [hback, ← List.append_assoc] at heq
    exact List.append_cancel_right heq
  have hlast := List.getLast?_eq_some_getLast hne
  have hlastWord : isWordChar (tail.getLast hne) = true := by
    have hword : ∀ c ∈ "data".toList, isWordChar c = true := List.all_eq_true.mp (by decide +kernel)
    exact hword _ (hdata ▸ List.mem_append_left w (List.getLast_mem hne))
  have hvalueLast : d.value.getLast? = some (tail.getLast hne) := by
    rw [hvalue, List.getLast?_append, hlast, Option.some_or]
  have hnext : ∃ c ∈ "data=".toList, d.back.head? = some c := by
    cases w with
    | nil => exact ⟨'=', by decide, congrArg List.head? hback⟩
    | cons c w =>
        have hmem : c ∈ "data".toList := hdata ▸ List.mem_append_right tail List.mem_cons_self
        exact ⟨c, List.mem_append_left ['='] hmem, congrArg List.head? hback⟩
  obtain ⟨c, hmem, hhead⟩ := hnext
  exact notMem_nameSign (d.ends_of_getLast? hn hspells hvalueLast hlastWord hhead) hmem

/-- A reference that begins in the attribute or behind it is the attribute or stands behind it. -/
theorem written_eq_or_infix (hn : IsWord n) (hspells : Spells n d.value) {part u : Text}
    (h : d.written ++ d.back = part ++ (dataMark ++ (n ++ ['}']) ++ u)) :
    d.written = dataMark ++ (n ++ ['}']) ∨ dataMark ++ (n ++ ['}']) <:+: d.back := by
  rcases List.append_eq_append_iff.mp h with ⟨passed, -, hback⟩ | ⟨tail, hwritten, hrest⟩
  · exact .inr ⟨passed, u, by rw [hback, List.append_assoc]⟩
  cases part with
  | nil => exact .inl (d.written_eq hn h)
  | cons b part =>
      cases tail with
      | nil => exact .inr ⟨[], u, hrest⟩
      | cons c tail =>
          exfalso
          obtain rfl : 'd' = c := (List.cons.inj hrest).1
          rw [d.written_eq_append, head, List.cons_append] at hwritten
          have hhead := d.notMem_head (c := 'd') (by decide) (by decide) (by decide)
          have hblank : 'd' ∉ d.behind := fun hmem => absurd (d.blankBehind _ hmem) (by decide)
          obtain ⟨front, hrest'⟩ :=
            Text.exists_of_append_eq_of_notMem hhead (List.cons.inj hwritten).2
          obtain ⟨front, hvalue⟩ := Text.exists_of_append_eq_of_notMem hblank hrest'
          exact d.not_in_value hn hspells hvalue (List.cons_ne_nil _ _) u hrest

/-- **Where a page refers to the query of a tag**: in the attribute, if it is written as a reference, or
wholly before or behind it. -/
theorem refersTo_iff (hn : IsWord n) (hspells : Spells n d.value) :
    RefersTo dataMark page.text n ↔ d.written = dataMark ++ (n ++ ['}']) ∨
      RefersTo dataMark d.front n ∨ RefersTo dataMark d.back n := by
  constructor
  · rintro ⟨-, s, u, hsplit⟩
    rw [d.page_text, List.append_assoc] at hsplit
    rcases List.append_eq_append_iff.mp hsplit with ⟨inner, hfront, hinner⟩ | ⟨part, -, hpart⟩
    · rcases List.append_eq_append_iff.mp hinner with ⟨w, rfl, -⟩ | ⟨outer, hsource, hrest⟩
      · exact .inr (.inl ⟨hn, s, w, by rw [hfront, List.append_assoc]⟩)
      by_cases hnone : inner = []
      · rw [hnone, List.nil_append] at hsource
        exact .inl (d.written_eq hn (hsource ▸ hrest))
      by_cases hwhole : outer = []
      · rw [hwhole, List.append_nil] at hsource
        exact .inr (.inl ⟨hn, s, [], by rw [hfront, hsource, List.append_nil]⟩)
      exact absurd hrest (d.not_inside hn hnone hwhole hsource u)
    · rcases d.written_eq_or_infix hn hspells hpart with heq | hinfix
      · exact .inl heq
      · exact .inr (.inr ⟨hn, hinfix⟩)
  · rintro (heq | ⟨-, hinfix⟩ | ⟨-, hinfix⟩)
    · exact ⟨hn, d.front, d.back, by rw [← heq, d.page_text, List.append_assoc]⟩
    · exact ⟨hn, hinfix.trans ⟨[], _, d.page_text.symm⟩⟩
    · exact ⟨hn, hinfix.trans ⟨_, [], by rw [List.append_nil, d.page_text, List.append_assoc]⟩⟩

end DataAttribute

/-! ### The rule and the tags -/

/-- **When the rule about references agrees with the tags of a page.** Let a component that displays
something have the `data` attribute `n`, in whatever spelling. If a block defines `n`, the rule leaves `n`
out of the queries that nothing refers to exactly when the page refers to it as `data={n}` or `${n}`; and
if none does, the rule reports the missing definition exactly when the page refers to it as `data={n}`. The
attribute is such a reference in one of its spellings only, without quotes and without blanks. In all
others it depends on what stands before the attribute and behind it whether the rule sees the query. -/
theorem queryReferences_dataAttribute (checker : Checker) {page : Page} {tag : Tag} {n : Text}
    (htag : tag ∈ page.tags) (hdisplay : tag.kind.isDisplay = true) (hn : IsWord n)
    (hdata : tag.bare? "data" = some n) :
    let names := page.queries.map (·.name)
    ∃ d : DataAttribute page tag, Spells n d.value ∧
      (RefersTo dataMark page.text n ↔ d.written = dataMark ++ (n ++ ['}']) ∨
        RefersTo dataMark d.front n ∨ RefersTo dataMark d.back n) ∧
      (n ∈ names → (unusedQuery n ∉ queryReferences checker page ↔
        RefersTo dataMark page.text n ∨ RefersTo compositionMark page.text n)) ∧
      (n ∉ names → (undefinedQuery n ∈ queryReferences checker page ↔
        RefersTo dataMark page.text n)) := by
  intro names
  obtain ⟨d, hspells⟩ := exists_dataAttribute htag hn.1 hdata
  refine ⟨d, hspells, d.refersTo_iff hn hspells, fun hdefined => ?_, fun hundefined => ?_⟩
  · have hmem : n ∈ definedNames page := hdefined
    rw [unusedQuery_mem_iff, mem_unusedNames_iff, and_iff_right ⟨tag, htag, hdisplay⟩,
      and_iff_right hmem, ← not_or, not_not]
  · have hnot : n ∉ definedNames page := hundefined
    rw [undefinedQuery_mem_iff, mem_undefinedNames_iff, and_iff_left hnot]

/-- Two charts: one writes its query, which is defined, with blanks around the equals sign, and one writes
a query that is not defined as a reference, with a spread and a flag in front of it. -/
theorem queryReferences_dataAttribute_charts :
    let page : Page := ⟨"p.md", ("```sql trips\n1\n```\n<BarChart data = \x7btrips\x7d/>\n" ++
      "<LineChart \x7b...p\x7d flag data=\x7bdepots\x7d data=x/>\n").toList⟩
    unusedQuery "trips".toList ∈ queryReferences Checker.unmarked page ∧
      undefinedQuery "depots".toList ∈ queryReferences Checker.unmarked page := by
  intro page
  have htags : page.tags.map (fun tag => (tag.kind.isDisplay, tag.bare? "data",
      (Attributes.pieces tag.raw).find? (·.isNamed "data"))) =
      [(true, some "trips".toList,
          some (.valued "data".toList [' '] [' '] "\x7btrips\x7d".toList)),
        (true, some "depots".toList,
          some (.valued "data".toList [] [] "\x7bdepots\x7d".toList))] := by
    decide +kernel
  have hnames : page.queries.map (·.name) = ["trips".toList] := by decide +kernel
  obtain ⟨trips, _, hpage, htrips, hrest⟩ := List.map_eq_cons_iff.mp htags
  obtain ⟨depots, rfl, hdepots⟩ := List.map_eq_singleton_iff.mp hrest
  simp only [Prod.mk.injEq] at htrips hdepots
  obtain ⟨htripsShown, htripsData, -⟩ := htrips
  obtain ⟨hdepotsShown, hdepotsData, hdepotsPiece⟩ := hdepots
  have hmem : trips ∈ page.tags ∧ depots ∈ page.tags := by simp [hpage]
  have hdefined : "trips".toList ∈ page.queries.map (·.name) := hnames ▸ List.mem_cons_self
  have hundefined : "depots".toList ∉ page.queries.map (·.name) :=
    hnames ▸ show "depots".toList ∉ ["trips".toList] by decide
  obtain ⟨-, -, -, hused, -⟩ := queryReferences_dataAttribute Checker.unmarked hmem.1 htripsShown
    (by decide +kernel) htripsData
  obtain ⟨d, -, hrefers, -, hmissing⟩ := queryReferences_dataAttribute Checker.unmarked hmem.2
    hdepotsShown (by decide +kernel) hdepotsData
  refine ⟨not_not.mp fun hnot => ?_, ?_⟩
  · exact absurd ((hused hdefined).mp hnot) (by decide +kernel)
  · refine (hmissing hundefined).mpr (hrefers.mpr (.inl ?_))
    exact (d.written_eq_text hdepotsPiece).trans (by decide)

/-- An attribute in quotes and one without braces mean the names of queries and are no references: the
defined one is said to be unused, and of the other one nothing is said. -/
theorem queryReferences_otherSpellings :
    let page : Page := ⟨"p.md",
      "```sql trips\nSELECT 1\n```\n<LineChart data='trips'/>\n<BarChart data=depots/>\n".toList⟩
    page.tags.map (fun tag => (tag.kind.isDisplay, tag.bare? "data")) =
        [(true, some "trips".toList), (true, some "depots".toList)] ∧
      page.queries.map (·.name) = ["trips".toList] ∧
      queryReferences Checker.unmarked page = [unusedQuery "trips".toList] ∧
      undefinedQuery "depots".toList ∉ queryReferences Checker.unmarked page := by
  decide +kernel

end PageLint.Rule
