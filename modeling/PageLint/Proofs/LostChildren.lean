import PageLint.PageRule
import PageLint.Proofs.BuiltinCheckers
import PageLint.Proofs.BytePositions

/-!
# Lost children

The rule about nesting looks ahead from a chart that closes itself: it goes to the next `<` and
compares what stands there with the names of the two components that belong inside a chart. It does
not ask for the tags of the page. The two views agree (`Rule.nameStands_iff_opens`): in a text
of ASCII whose `<` is closed by a `>`, the rule finds a name exactly where a tag of that kind opens.

A chart loses a child (`Rule.LosesChild`) when the next tag of the page is such a component, begins at
the next `<`, and no blank line parts the two. Whatever else stands behind the chart loses nothing:
prose with a stray `<`, a closing tag, a component with a longer name.

## Main results

* `Rule.startsWithBlankLine_iff`: what a blank line is.
* `Rule.losesChild_iff`: a child is lost exactly when its tag opens at the next `<`.
* `Checker.lostChildFindings_exact`: **the children that are reported** are those that are lost.
-/

namespace PageLint

/-- Ranges that begin above a limit hold no code point below it. -/
theorem CharRanges.holds_filter {n limit : Nat} (h : n < limit) (ranges : List (Nat × Nat)) :
    holds n (ranges.filter (·.1 < limit)) = holds n ranges := by
  rw [holds, holds, List.any_filter]
  refine congrArg (List.any ranges) (funext fun range => ?_)
  by_cases hstart : range.1 < limit
  · rw [decide_eq_true hstart, Bool.true_and]
  · have hnot : ¬range.1 ≤ n := by omega
    rw [decide_eq_false hstart, decide_eq_false hnot, Bool.false_and, Bool.false_and]

/-- Within ASCII, words are made of letters, digits and the underscore. -/
theorem isWordChar_eq_of_ascii {c : Char} (h : c.toNat < 0x80) :
    isWordChar c = (isAlphanumeric c || c == '_') := by
  have hword : CharRanges.wordRanges.filter (·.1 < 0x80) =
      [(48, 57), (65, 90), (95, 95), (97, 122)] := by decide +kernel
  have halphanumeric : CharRanges.alphanumericRanges.filter (·.1 < 0x80) =
      [(48, 57), (65, 90), (97, 122)] := by decide +kernel
  have hunderscore : (c == '_') = (c.toNat == '_'.toNat) := by
    rw [Bool.eq_iff_iff, beq_iff_eq, beq_iff_eq, Char.toNat_inj]
  have hall : ∀ n < 0x80, CharRanges.holds n [(48, 57), (65, 90), (95, 95), (97, 122)] =
      (CharRanges.holds n [(48, 57), (65, 90), (97, 122)] || n == '_'.toNat) := by
    decide +kernel
  rw [isWordChar, isAlphanumeric, hunderscore, ← CharRanges.holds_filter h,
    ← CharRanges.holds_filter h CharRanges.alphanumericRanges, hword, halphanumeric, hall _ h]

namespace Rule

/-! ### Blank lines -/

/-- A space or a tab. -/
def IsInlineBlank (c : Char) : Prop := c = ' ' ∨ c = '\t'

/-- Does the text begin with a blank line: two line ends with only spaces and tabs before each? -/
def BeginsWithBlankLine (t : Text) : Prop :=
  ∃ first second rest, (∀ c ∈ first, IsInlineBlank c) ∧ (∀ c ∈ second, IsInlineBlank c) ∧
    t = first ++ '\n' :: (second ++ '\n' :: rest)

/-- The spaces and tabs at the head of a text are taken off up to the line end behind them. -/
theorem dropWhile_blank_eq_iff {p : Char → Bool} (hp : ∀ c, p c = true ↔ IsInlineBlank c)
    {t rest : Text} : t.dropWhile p = '\n' :: rest ↔
      ∃ blanks, (∀ c ∈ blanks, IsInlineBlank c) ∧ t = blanks ++ '\n' :: rest := by
  constructor
  · intro h
    refine ⟨t.takeWhile p, fun c hc => (hp c).mp (List.mem_takeWhile_imp hc), ?_⟩
    rw [← h, List.takeWhile_append_dropWhile]
  · rintro ⟨blanks, hblanks, rfl⟩
    refine (Text.takeWhile_dropWhile_append (fun c hc => (hp c).mpr (hblanks c hc)) ?_).2
    intro c hc
    obtain rfl := Option.some.inj hc
    have hnot : ¬IsInlineBlank '\n' := by simp [IsInlineBlank]
    rw [← Bool.not_eq_true, hp]
    exact hnot

/-- **What a blank line is.** -/
theorem startsWithBlankLine_iff {t : Text} :
    startsWithBlankLine t = true ↔ BeginsWithBlankLine t := by
  let p : Char → Bool := fun c => c == ' ' || c == '\t'
  have hp : ∀ c, p c = true ↔ IsInlineBlank c := by simp [p, IsInlineBlank]
  have hform : startsWithBlankLine t = true ↔
      ∃ u rest, t.dropWhile p = '\n' :: u ∧ u.dropWhile p = '\n' :: rest := by
    rw [startsWithBlankLine]
    split
    · next u hu =>
      have hcons : ((u.dropWhile p).head? == some '\n') = true ↔
          ∃ rest, u.dropWhile p = '\n' :: rest := by
        rw [beq_iff_eq, List.head?_eq_some_iff]
      refine hcons.trans ⟨fun ⟨rest, h⟩ => ⟨u, rest, hu, h⟩, ?_⟩
      rintro ⟨u', rest, hu', h⟩
      obtain ⟨-, rfl⟩ := List.cons.inj (hu.symm.trans hu')
      exact ⟨rest, h⟩
    · next hnone => exact ⟨nofun, fun ⟨u, rest, hu, _⟩ => absurd hu (hnone u)⟩
  simp only [hform, dropWhile_blank_eq_iff hp]
  constructor
  · rintro ⟨u, rest, ⟨first, hfirst, rfl⟩, second, hsecond, rfl⟩
    exact ⟨first, second, rest, hfirst, hsecond, rfl⟩
  · rintro ⟨first, second, rest, hfirst, hsecond, rfl⟩
    exact ⟨_, rest, ⟨first, hfirst, rfl⟩, second, hsecond, rfl⟩

/-! ### Names behind a mark -/

/-- The kinds that mean something only inside a chart. -/
def IsChild (k : ComponentKind) : Prop := k = .referenceArea ∨ k = .column

/-- Does the name of the kind stand at the head of the text, and does it end there? -/
def NameStands (k : ComponentKind) (t : Text) : Prop :=
  ∃ rest, t = k.name.toList ++ rest ∧
    ∀ c, rest.head? = some c → (isAlphanumeric c || c == '_') = false

/-- Only one name stands at the head of a text. -/
theorem NameStands.unique {k l : ComponentKind} {t : Text} (hk : NameStands k t)
    (hl : NameStands l t) : k = l := by
  obtain ⟨rest, rfl, -⟩ := hk
  obtain ⟨rest', hrest', -⟩ := hl
  rcases List.prefix_or_prefix_of_prefix ⟨rest, rfl⟩ ⟨rest', hrest'.symm⟩ with h | h
  · exact ComponentKind.eq_of_name_isPrefix h
  · exact (ComponentKind.eq_of_name_isPrefix h).symm

/-- The name of a kind stands at the head of a text when it can be taken off and the rest does not
continue it. -/
theorem nameStands_iff {k : ComponentKind} {t : Text} : NameStands k t ↔
    ∃ rest, Text.after? k.name.toList t = some rest ∧
      (!rest.head?.any fun c => isAlphanumeric c || c == '_') = true := by
  simp only [NameStands, Text.after?_eq_some_iff]
  refine exists_congr fun rest => and_congr_right fun _ => ?_
  cases rest <;> simp

/-- A child is found where its name stands. -/
theorem childAt?_eq_some_iff {t : Text} {k : ComponentKind} :
    childAt? t = some k ↔ IsChild k ∧ NameStands k t := by
  have hmem : ∀ k, k ∈ [ComponentKind.referenceArea, .column] ↔ IsChild k := by
    simp [IsChild]
  have hsound : ∀ l, childAt? t = some l → IsChild l ∧ NameStands l t := by
    intro l h
    refine ⟨(hmem l).mp (List.mem_of_find?_eq_some h), nameStands_iff.mpr ?_⟩
    have htest := List.find?_some h
    split at htest
    · next rest hrest => exact ⟨rest, hrest, htest⟩
    · cases htest
  refine ⟨hsound k, ?_⟩
  rintro ⟨hchild, hstands⟩
  cases hfind : childAt? t with
  | none =>
      obtain ⟨rest, hrest, htest⟩ := nameStands_iff.mp hstands
      have hnone := List.find?_eq_none.mp hfind k ((hmem k).mpr hchild)
      simp only [hrest] at hnone
      exact absurd htest hnone
  | some l => rw [(hsound l hfind).2.unique hstands]

/-- **Looking ahead agrees with reading tags.** In a text of ASCII with a `>`, a name stands behind a
`<` exactly where a tag of its kind opens with that `<`. -/
theorem nameStands_iff_opens {k : ComponentKind} {t : Text} (hascii : ∀ c ∈ t, c.toNat < 0x80)
    (hend : '>' ∈ t) : NameStands k t ↔ Tag.Opens k ('<' :: t) := by
  have hclass : ∀ {rest : Text}, t = k.name.toList ++ rest → ∀ c, rest.head? = some c →
      isWordChar c = (isAlphanumeric c || c == '_') := by
    rintro rest rfl c hc
    exact isWordChar_eq_of_ascii
      (hascii c (List.mem_append_right _ (List.mem_of_mem_head? hc)))
  constructor
  · rintro ⟨rest, hrest, hends⟩
    have hmem : '>' ∈ rest := (List.mem_append.mp (hrest ▸ hend)).resolve_left k.notMem_name
    refine ⟨rest, by rw [hrest], (Tag.atWordBoundary_name_iff k rest).mpr fun c hc => ?_, hmem⟩
    rw [hclass hrest c hc, hends c hc]
  · rintro ⟨rest, hrest, hboundary, -⟩
    obtain ⟨-, hrest⟩ := List.cons.inj hrest
    refine ⟨rest, hrest, fun c hc => ?_⟩
    rw [← hclass hrest c hc, (Tag.atWordBoundary_name_iff k rest).mp hboundary c hc]

/-! ### Behind a tag -/

/-- What is ahead of a tag: the text `between` up to the next `<`, and the text `after` behind it. -/
def Ahead (page : Page) (tag : Tag) (between after : Text) : Prop :=
  ∃ front, page.text = front ++ (between ++ '<' :: after) ∧ Text.utf8Size front = tag.stop ∧
    '<' ∉ between

/-- Does a tag lose a child: is the next tag of the page one that belongs inside a chart, which begins
at the next `<`, with no blank line before it? -/
structure LosesChild (page : Page) (tag child : Tag) : Prop where
  /-- The next tag belongs inside a chart. -/
  isChild : IsChild child.kind
  /-- It is the next tag of the page. -/
  next : [tag, child] <:+: page.tags
  /-- It begins at the next `<`, and no blank line parts the two. -/
  directly : ∃ between after, Ahead page tag between after ∧
    child.start = tag.stop + Text.utf8Size between ∧
    ¬BeginsWithBlankLine (between ++ '<' :: after)

/-- There is only one next `<`. -/
theorem Ahead.unique {page : Page} {tag : Tag} {between after between' after' : Text}
    (h : Ahead page tag between after) (h' : Ahead page tag between' after') :
    between = between' ∧ after = after' := by
  obtain ⟨front, htext, hsize, hbetween⟩ := h
  obtain ⟨front', htext', hsize', hbetween'⟩ := h'
  obtain ⟨-, hrest⟩ := Text.append_inj_of_utf8Size_eq (htext.symm.trans htext')
    (hsize.trans hsize'.symm)
  exact Text.append_cons_inj hbetween hbetween' hrest

/-- What is ahead of a tag is the text behind it. -/
theorem Ahead.textBehind_eq {page : Page} {tag : Tag} {between after : Text}
    (h : Ahead page tag between after) : textBehind page tag = between ++ '<' :: after := by
  obtain ⟨front, htext, hsize, -⟩ := h
  rw [textBehind, htext, ← hsize, Text.slice?_behind, Option.getD_some]

/-- The text behind the next `<`. -/
theorem Ahead.behindOpening_eq {page : Page} {tag : Tag} {between after : Text}
    (h : Ahead page tag between after) : behindOpening (textBehind page tag) = after := by
  have hpassed : ∀ c ∈ between, (c != '<') = true := by
    obtain ⟨-, -, -, hbetween⟩ := h
    exact fun c hc => bne_iff_ne.mpr fun heq => hbetween (heq ▸ hc)
  rw [h.textBehind_eq, behindOpening, List.dropWhile_append_of_pos hpassed,
    List.dropWhile_cons_of_neg (by simp), List.drop_succ_cons, List.drop_zero]

/-- In a page whose tags are all closed, the next `<` is closed. -/
theorem Ahead.mem_after {page : Page} {tag : Tag} {between after : Text}
    (h : Ahead page tag between after) (hclosed : page.text.EndsClosed) : '>' ∈ after := by
  obtain ⟨front, htext, -⟩ := h
  exact Text.endsClosed_iff.mp hclosed (front ++ between) after (by rw [htext, List.append_assoc])

/-- Behind a tag of a page there is a next `<`, or none. -/
theorem ahead_cases {page : Page} {tag : Tag} (hmem : tag ∈ page.tags) :
    (∃ between after, Ahead page tag between after) ∨
      (∀ between after, ¬Ahead page tag between after) ∧
        behindOpening (textBehind page tag) = [] := by
  obtain ⟨front, ahead, htext, hsize⟩ := Tag.isBoundary_stop hmem
  by_cases hmark : '<' ∈ ahead
  · obtain ⟨between, after, rfl, hbetween⟩ := List.eq_append_cons_of_mem hmark
    exact Or.inl ⟨between, after, front, htext, hsize, hbetween⟩
  · refine Or.inr ⟨?_, ?_⟩
    · rintro between after ⟨front', htext', hsize', -⟩
      obtain ⟨-, rfl⟩ := Text.append_inj_of_utf8Size_eq (htext.symm.trans htext')
        (hsize.trans hsize'.symm)
      exact hmark (List.mem_append_right _ List.mem_cons_self)
    · have hnone : ahead.dropWhile (· != '<') = [] :=
        List.dropWhile_eq_nil_iff.mpr fun c hc => bne_iff_ne.mpr fun heq => hmark (heq ▸ hc)
      rw [textBehind, htext, ← hsize, Text.slice?_behind, Option.getD_some, behindOpening, hnone,
        List.drop_nil]

/-- **A child is lost exactly when its tag opens at the next `<`**, and no blank line parts it from the
chart. -/
theorem losesChild_iff {page : Page} {tag : Tag} (hmem : tag ∈ page.tags) {between after : Text}
    (hahead : Ahead page tag between after) {k : ComponentKind} :
    (∃ child, LosesChild page tag child ∧ child.kind = k) ↔
      IsChild k ∧ Tag.Opens k ('<' :: after) ∧ ¬BeginsWithBlankLine (between ++ '<' :: after) := by
  constructor
  · rintro ⟨child, hloses, rfl⟩
    obtain ⟨between', after', hahead', hstart, hblank⟩ := hloses.directly
    obtain ⟨rfl, rfl⟩ := hahead.unique hahead'
    obtain ⟨front, htext, hsize, -⟩ := hahead
    refine ⟨hloses.isChild, ?_, hblank⟩
    have hchild : child ∈ Tag.ofText ((front ++ between) ++ '<' :: after) := by
      rw [List.append_assoc, ← htext]
      exact hloses.next.subset (List.mem_cons_of_mem _ List.mem_cons_self)
    refine Tag.opens_of_mem hchild ?_
    rw [Text.utf8Size_append, hsize, hstart]
  · rintro ⟨hkind, hopens, hblank⟩
    obtain ⟨front, behind, ahead, htags, htext, hsize⟩ := Tag.exists_ofRest_of_mem hmem
    obtain ⟨front', htext', hsize', hbetween⟩ := id hahead
    obtain ⟨-, rfl⟩ := Text.append_inj_of_utf8Size_eq (htext.symm.trans htext') (by
      rw [Text.utf8Size_reverse, hsize, hsize'])
    obtain ⟨inner, rest, hread⟩ := hopens.exists_read (between.reverse ++ behind).head?
    obtain ⟨source, hne, hsource⟩ := Tag.reader_consumes _ _ _ _ hread
    rw [Tag.ofRest_append hbetween, hsource, Tag.ofRest_tag hne (hsource ▸ hread)] at htags
    refine ⟨Tag.ofHit ⟨between.reverse ++ behind, source, (k, inner), rest⟩,
      ⟨hkind, ⟨front, Tag.ofRest (source.reverse ++ (between.reverse ++ behind)) rest, ?_⟩,
        between, after, hahead, ?_, hblank⟩, rfl⟩
    · rw [Page.tags, htags, List.append_assoc]
      rfl
    · have hstart : Text.utf8Size (between.reverse ++ behind) =
          tag.stop + Text.utf8Size between := by
        rw [Text.utf8Size_append, Text.utf8Size_reverse, hsize, Nat.add_comm]
      exact hstart

/-! ### The rule -/

/-- The kind of the child that a tag loses, as the rule sees it. -/
def lostKind? (page : Page) (tag : Tag) : Option ComponentKind :=
  if startsWithBlankLine (textBehind page tag) then none
  else childAt? (behindOpening (textBehind page tag))

/-- The rule says one notice for each chart that closes itself and loses a child. -/
theorem lostChildren_eq (checker : Checker) (page : Page) :
    lostChildren checker page =
      (closedParents page).filterMap fun tag => (lostKind? page tag).map lostChild := by
  rw [lostChildren]
  refine List.filterMap_congr fun tag _ => ?_
  rw [lostKind?, apply_ite (Option.map lostChild)]
  rfl

/-- **What the rule sees is what is lost.** -/
theorem lostKind?_eq_some_iff {page : Page} (hascii : ∀ c ∈ page.text, c.toNat < 0x80) {tag : Tag}
    (hmem : tag ∈ page.tags) (hclosed : ∀ between after, Ahead page tag between after → '>' ∈ after)
    {k : ComponentKind} :
    lostKind? page tag = some k ↔ ∃ child, LosesChild page tag child ∧ child.kind = k := by
  rcases ahead_cases hmem with ⟨between, after, hahead⟩ | ⟨hnone, hempty⟩
  · have hafter : ∀ c ∈ after, c.toNat < 0x80 := by
      obtain ⟨front, htext, -⟩ := hahead
      intro c hc
      exact hascii c (htext ▸ by simp [hc])
    have hblank := startsWithBlankLine_iff (t := between ++ '<' :: after)
    rw [losesChild_iff hmem hahead, lostKind?, hahead.behindOpening_eq, hahead.textBehind_eq,
      ← hblank]
    cases startsWithBlankLine (between ++ '<' :: after) with
    | true => simp
    | false =>
        simp [childAt?_eq_some_iff, nameStands_iff_opens hafter (hclosed _ _ hahead)]
  · have hchild : childAt? [] = none := by decide
    constructor
    · intro h
      rw [lostKind?, hempty, hchild, ite_self] at h
      cases h
    · rintro ⟨child, hloses, -⟩
      obtain ⟨between, after, hahead, -⟩ := hloses.directly
      exact absurd hahead (hnone between after)

end Rule

namespace Checker

/-- **The children that are reported.** For each chart that closes itself, in the order of the charts,
there is one error or none, and the error names the kind of the child. In a page of ASCII, the error
is there exactly if the next tag of the page is a child that the chart loses, for every chart whose
next `<` is closed by a `>`. -/
theorem lostChildFindings_exact (checker : Checker) (page : Page)
    (hascii : ∀ c ∈ page.text, c.toNat < 0x80) :
    checker.findingsOf .lostChildren page = (Rule.closedParents page).filterMap (fun tag =>
      (Rule.lostKind? page tag).map fun k => (Rule.lostChild k).inFile page.path) ∧
    ∀ tag ∈ Rule.closedParents page,
      (∀ between after, Rule.Ahead page tag between after → '>' ∈ after) →
        ∀ k, Rule.lostKind? page tag = some k ↔
          ∃ child, Rule.LosesChild page tag child ∧ child.kind = k := by
  constructor
  · have hrule : checker.findingsOf .lostChildren page =
        (Rule.lostChildren checker page).map (·.inFile page.path) := rfl
    rw [hrule, Rule.lostChildren_eq, List.map_filterMap]
    simp only [Option.map_map, Function.comp_def]
  · intro tag htag hclosed k
    exact Rule.lostKind?_eq_some_iff hascii (List.mem_of_mem_filter htag) hclosed

/-- A chart that loses an area; one that is parted from a column by a blank line; one before a
component with a longer name; and one before a stray `<`. -/
theorem lostChildFindings_exact_siblings :
    let page : Page := ⟨"p.md", ("<LineChart/> see\n<ReferenceArea xMin='1'/>\n<BarChart/>\n\n" ++
      "<Column/><AreaChart/><Columns/>\n<PointMap/> a < b and <Grid>\n").toList⟩
    (∀ c ∈ page.text, c.toNat < 0x80) ∧
      plain.findingsOf .lostChildren page = [(Rule.lostChild .referenceArea).inFile "p.md"] ∧
      (Rule.closedParents page).map (·.kind) = [.lineChart, .barChart, .areaChart, .pointMap] ∧
      ∀ tag ∈ Rule.closedParents page,
        (∃ child, Rule.LosesChild page tag child ∧ child.kind = .referenceArea) ↔
          tag.kind = .lineChart := by
  intro page
  have hascii : ∀ c ∈ page.text, c.toNat < 0x80 := by
    have hall : page.text.all (fun c => c.toNat < 0x80) = true := by decide +kernel
    simpa using hall
  have hclosed : page.text.EndsClosed := by decide +kernel
  obtain ⟨hfindings, hlost⟩ := lostChildFindings_exact plain page hascii
  refine ⟨hascii, hfindings.trans ?_, by decide +kernel, ?_⟩
  · decide +kernel
  · intro tag htag
    rw [← hlost tag htag (fun _ _ hahead => hahead.mem_after hclosed) .referenceArea]
    revert tag
    decide +kernel

end Checker

end PageLint
