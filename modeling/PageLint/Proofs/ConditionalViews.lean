import PageLint.Proofs.BuiltinCheckers
import PageLint.Proofs.PageCuts

/-!
# Conditional views

A view begins behind a condition on an input. The rule looks from there for the first component that
shows data, and takes it for the view's own if no boundary stands between (`Rule.HoldsBoundary`). The
boundaries are the starts of the next condition and of the end of the conditions. The branch `:else`
without a condition is none of them, so a component of that branch is taken for one of the view before
it.

A component begins with `<`, which is in no boundary. So a boundary that begins before a component also
ends before it, and positions can be compared by what stands between (`Rule.lt_viewEnd_iff`).

## Main results

* `Rule.viewBoundary_eq_some_iff`, `Rule.viewCondition_eq_some_iff`: the forms of boundaries and
  conditions.
* `Rule.lt_viewEnd_iff`: a component is the view's own when no boundary stands before it.
* `Rule.viewNotice?_eq_some_iff`: which views are reported.
* `Checker.conditionalViews_exact`: **the views that are reported**, and which of them are judged on
  their own branch.
-/

namespace PageLint

/-! ### Words at the head of a text -/

/-- Of words none of which begins another, the one at the head of a text is taken off. -/
theorem Text.findSome?_after?_eq_some_iff {words : List String}
    (hwords : ∀ v ∈ words, ∀ w ∈ words, v.toList <+: w.toList → v = w) {t rest : Text} :
    words.findSome? (fun w => after? w.toList t) = some rest ↔
      ∃ w ∈ words, t = w.toList ++ rest := by
  have hsound : ∀ {rest}, words.findSome? (fun w => after? w.toList t) = some rest →
      ∃ w ∈ words, t = w.toList ++ rest := by
    intro rest h
    obtain ⟨w, hw, hafter⟩ := List.exists_of_findSome?_eq_some h
    exact ⟨w, hw, after?_eq_some_iff.mp hafter⟩
  refine ⟨hsound, ?_⟩
  rintro ⟨w, hw, rfl⟩
  cases hfound : words.findSome? (fun v => after? v.toList (w.toList ++ rest)) with
  | none =>
      have hnone := List.findSome?_eq_none_iff.mp hfound w hw
      rw [after?_eq_some_iff.mpr rfl] at hnone
      cases hnone
  | some rest' =>
      obtain ⟨v, hv, hsplit⟩ := hsound hfound
      obtain rfl : w = v := by
        rcases List.prefix_or_prefix_of_prefix ⟨rest, rfl⟩ ⟨rest', hsplit.symm⟩ with h | h
        · exact hwords w hw v hv h
        · exact (hwords v hv w hw h).symm
      rw [List.append_cancel_left hsplit]

/-! ### Components -/

namespace Tag

/-- A tag begins at a `<`. -/
theorem exists_split {t : Text} {tag : Tag} (hmem : tag ∈ ofText t) :
    ∃ before rest, t = before ++ rest ∧ Text.utf8Size before = tag.start ∧
      rest.head? = some '<' := by
  obtain ⟨h, hh, rfl⟩ := List.mem_map.mp hmem
  obtain ⟨hsource, -, -, ht⟩ := source_of_mem_hits hh
  refine ⟨h.behind.reverse, h.source ++ h.ahead, ht, Text.utf8Size_reverse _, ?_⟩
  rw [hsource]
  rfl

end Tag

/-- Is the tag the first one behind the position that shows data? -/
structure Page.FirstDisplay (page : Page) (position : Nat) (tag : Tag) : Prop where
  /-- It is a tag of the page. -/
  mem : tag ∈ page.tags
  /-- It shows data. -/
  isDisplay : tag.kind.isDisplay = true
  /-- It stands behind the position. -/
  le_start : position ≤ tag.start
  /-- No other such tag begins before it. -/
  first : ∀ other ∈ page.tags, other.kind.isDisplay = true → position ≤ other.start →
    tag.start ≤ other.start

/-- There is one such tag at most. -/
theorem Page.FirstDisplay.unique {page : Page} {position : Nat} {a b : Tag}
    (ha : page.FirstDisplay position a) (hb : page.FirstDisplay position b) : a = b := by
  have hab := ha.first b hb.mem hb.isDisplay hb.le_start
  have hba := hb.first a ha.mem ha.isDisplay ha.le_start
  exact Tag.eq_of_start_eq ha.mem hb.mem (Nat.le_antisymm hab hba)

namespace Rule

/-- **Where a component is found** between two positions: the first one behind the first position is
found if it begins before the second. -/
theorem firstDisplay?_eq_some_iff {page : Page} {start stop : Nat} {tag : Tag} :
    firstDisplay? page start stop = some tag ↔
      page.FirstDisplay start tag ∧ tag.start < stop := by
  rw [firstDisplay?, Page.tags, Tag.find?_ofText_eq_some_iff]
  simp only [Bool.and_eq_true, decide_eq_true_eq]
  constructor
  · rintro ⟨hmem, ⟨⟨hdisplay, hstart⟩, hstop⟩, hfirst⟩
    refine ⟨⟨hmem, hdisplay, hstart, fun other hother hshows hbehind => ?_⟩, hstop⟩
    rcases Nat.lt_or_ge other.start stop with hlt | hge
    · exact hfirst other hother ⟨⟨hshows, hbehind⟩, hlt⟩
    · exact (Nat.lt_of_lt_of_le hstop hge).le
  · rintro ⟨⟨hmem, hdisplay, hstart, hfirst⟩, hstop⟩
    exact ⟨hmem, ⟨⟨hdisplay, hstart⟩, hstop⟩, fun other hother h => hfirst other hother h.1.1 h.1.2⟩

/-! ### Boundaries -/

/-- The words that begin a boundary. -/
def boundaryWords : List String := ["\x7b#if", "\x7b:else if", "\x7b/if"]

/-- The words that begin a condition. -/
def conditionWords : List String := ["\x7b#if", "\x7b:else if"]

/-- No word of a boundary begins another. -/
theorem eq_of_boundaryWord_isPrefix :
    ∀ v ∈ boundaryWords, ∀ w ∈ boundaryWords, v.toList <+: w.toList → v = w := by decide

/-- Conditions begin with words of boundaries. -/
theorem mem_boundaryWords {word : String} (h : word ∈ conditionWords) : word ∈ boundaryWords := by
  have hall : ∀ word ∈ conditionWords, word ∈ boundaryWords := by decide
  exact hall word h

/-- A word of a boundary is not empty. -/
theorem boundaryWord_ne_nil {word : String} (h : word ∈ boundaryWords) : word.toList ≠ [] := by
  have hall : ∀ word ∈ boundaryWords, word.toList ≠ [] := by decide
  exact hall word h

/-- No component begins in a word of a boundary. -/
theorem notMem_boundaryWord {word : String} (h : word ∈ boundaryWords) : '<' ∉ word.toList := by
  have hall : ∀ word ∈ boundaryWords, '<' ∉ word.toList := by decide
  exact hall word h

/-- **The form of a boundary**: one of the words, as a whole word. -/
theorem viewBoundary_eq_some_iff {before : Option Char} {t rest : Text} :
    viewBoundary before t = some ((), rest) ↔
      (∃ word ∈ boundaryWords, t = word.toList ++ rest) ∧
        ∀ c, rest.head? = some c → isWordChar c = false := by
  rw [viewBoundary, ← Text.findSome?_after?_eq_some_iff eq_of_boundaryWord_isPrefix]
  change Option.bind (boundaryWords.findSome? fun word => Text.after? word.toList t) _ = _ ↔ _
  rw [Option.bind_eq_some_iff]
  constructor
  · rintro ⟨rest', hword, h⟩
    split at h
    · cases h
    · next hclear =>
      obtain ⟨-, rfl⟩ := Prod.mk.inj (Option.some.inj h)
      refine ⟨hword, ?_⟩
      intro c hc
      rw [hc] at hclear
      simpa using hclear
  · rintro ⟨hword, hclear⟩
    refine ⟨rest, hword, if_neg ?_⟩
    cases hhead : rest.head? with
    | none => simp
    | some c => simp [hclear c hhead]

/-- What begins or ends a view is never read from nothing. -/
theorem viewBoundary_consumes : viewBoundary.Consumes := by
  intro before t value ahead h
  obtain ⟨⟨word, hword, rfl⟩, -⟩ := viewBoundary_eq_some_iff.mp h
  exact ⟨word.toList, boundaryWord_ne_nil hword, rfl⟩

/-- Does a boundary stand in the text? -/
def HoldsBoundary (t : Text) : Prop :=
  ∃ before, ∃ word ∈ boundaryWords, ∃ after, t = before ++ (word.toList ++ after) ∧
    ∀ c, after.head? = some c → isWordChar c = false

/-- A boundary before a component is found. -/
theorem exists_hit_of_holdsBoundary {between rest : Text} (hrest : rest.head? = some '<')
    (h : HoldsBoundary between) :
    ∃ b ∈ (between ++ rest).hits viewBoundary, b.start ≤ Text.utf8Size between := by
  obtain ⟨before, word, hword, after, rfl, hclear⟩ := h
  have hclear' : ∀ c, (after ++ rest).head? = some c → isWordChar c = false := by
    intro c hc
    cases after with
    | nil =>
        rw [List.nil_append, hrest] at hc
        obtain rfl := Option.some.inj hc
        decide +kernel
    | cons d after => exact hclear c hc
  have hread : viewBoundary before.reverse.head? (word.toList ++ (after ++ rest)) =
      some ((), after ++ rest) :=
    viewBoundary_eq_some_iff.mpr ⟨⟨word, hword, rfl⟩, hclear'⟩
  have hne : word.toList ++ (after ++ rest) ≠ [] :=
    List.append_ne_nil_of_left_ne_nil (boundaryWord_ne_nil hword) _
  obtain ⟨b, hb, inner, outer, -, hsource, -, hfront, -⟩ :=
    Text.exists_hit_of_read viewBoundary_consumes hne hread
  refine ⟨b, ?_, ?_⟩
  · rw [List.append_assoc, List.append_assoc]
    exact hb
  · have hsize := (Hit.utf8Size_inside hsource hfront).1
    rw [Text.utf8Size_append]
    omega

/-- A boundary that is found and begins no later than a component stands before it. -/
theorem holdsBoundary_of_hit {between rest : Text} (hrest : rest.head? = some '<') {b : Hit Unit}
    (hb : b ∈ (between ++ rest).hits viewBoundary) (hle : b.start ≤ Text.utf8Size between) :
    HoldsBoundary between := by
  obtain ⟨-, hread, hsplit⟩ := Text.read_of_mem_hits viewBoundary_consumes hb
  obtain ⟨⟨word, hword, hsource⟩, hclear⟩ := viewBoundary_eq_some_iff.mp hread
  have hbehind : Text.utf8Size b.behind.reverse ≤ Text.utf8Size between := by
    rw [Text.utf8Size_reverse]
    exact hle
  obtain ⟨part, rfl, hpart⟩ := Text.exists_of_boundaries hsplit.symm hbehind
  rw [hsource] at hpart
  rcases List.append_eq_append_iff.mp hpart with ⟨after, rfl, hahead⟩ | ⟨tail, htail, hahead⟩
  · refine ⟨_, word, hword, after, rfl, ?_⟩
    intro c hc
    refine hclear c ?_
    rw [hahead, List.head?_append, hc, Option.some_or]
  · cases tail with
    | nil =>
        refine ⟨b.behind.reverse, word, hword, [], ?_, ?_⟩
        · rw [htail, List.append_nil, List.append_nil]
        · intro c hc
          cases hc
    | cons c tail =>
        rw [hahead, List.cons_append, List.head?_cons] at hrest
        obtain rfl := Option.some.inj hrest
        refine absurd ?_ (notMem_boundaryWord hword)
        rw [htail]
        simp

/-- A boundary stands before a component if one is found that begins no later. -/
theorem holdsBoundary_iff_exists_hit {between rest : Text} (hrest : rest.head? = some '<') :
    HoldsBoundary between ↔
      ∃ b ∈ (between ++ rest).hits viewBoundary, b.start ≤ Text.utf8Size between :=
  ⟨exists_hit_of_holdsBoundary hrest, fun ⟨_, hb, hle⟩ => holdsBoundary_of_hit hrest hb hle⟩

/-- **Whose component it is.** A component begins before its view ends exactly when no boundary stands
before the component. -/
theorem lt_viewEnd_iff {start : Nat} {between rest : Text} (hrest : rest.head? = some '<') :
    start + Text.utf8Size between <
        viewEnd start (between ++ rest) (start + Text.utf8Size (between ++ rest)) ↔
      ¬HoldsBoundary between := by
  rw [holdsBoundary_iff_exists_hit hrest, viewEnd]
  have hordered := Text.pairwise_hits viewBoundary_consumes (between ++ rest)
  cases hhits : (between ++ rest).hits viewBoundary with
  | nil =>
      have hpos : 0 < Text.utf8Size rest := by
        refine Text.utf8Size_pos ?_
        rintro rfl
        cases hrest
      simp [hpos]
  | cons b bs =>
      rw [hhits] at hordered
      have hlater := (List.pairwise_cons.mp hordered).1
      show start + _ < start + b.start ↔ _
      constructor
      · rintro hlt ⟨other, hother, hle⟩
        rcases List.mem_cons.mp hother with rfl | hother
        · omega
        · have hstop := hlater other hother
          have hspan : b.start ≤ b.stop := Nat.le_add_right _ _
          omega
      · intro hnone
        have hnot : ¬b.start ≤ Text.utf8Size between := fun hle =>
          hnone ⟨b, List.mem_cons_self, hle⟩
        omega

/-! ### Conditions -/

/-- Is the text a condition on an input? -/
def IsCondition (condition : Text) : Prop :=
  '}' ∉ condition ∧ ∃ name, name ≠ [] ∧ condition = "inputs.".toList ++ name

/-- **The form of a view's condition**: one of the words, blanks, and a condition on an input up to
the closing brace. -/
theorem viewCondition_eq_some_iff {before : Option Char} {t condition rest : Text} :
    viewCondition before t = some (condition, rest) ↔
      IsCondition condition ∧ ∃ word ∈ conditionWords, ∃ blanks, blanks ≠ [] ∧
        (∀ c ∈ blanks, isSpace c = true) ∧
        t = word.toList ++ (blanks ++ (condition ++ '}' :: rest)) := by
  have hor : (Text.after? "\x7b#if".toList t).or (Text.after? "\x7b:else if".toList t) =
      conditionWords.findSome? fun word => Text.after? word.toList t := by
    rw [conditionWords, List.findSome?_cons, List.findSome?_cons, List.findSome?_nil]
    cases Text.after? "\x7b#if".toList t with
    | some rest => rfl
    | none => cases Text.after? "\x7b:else if".toList t <;> rfl
  have hwords : ∀ v ∈ conditionWords, ∀ w ∈ conditionWords, v.toList <+: w.toList → v = w :=
    fun v hv w hw => eq_of_boundaryWord_isPrefix v (mem_boundaryWords hv) w (mem_boundaryWords hw)
  simp only [viewCondition, hor, bind, Option.bind_eq_some_iff, Prod.exists]
  constructor
  · rintro ⟨t₁, h₁, t₂, h₂, behind, h₃, name, t₃, h₄, h⟩
    obtain ⟨word, hword, rfl⟩ := (Text.findSome?_after?_eq_some_iff hwords).mp h₁
    obtain ⟨blanks, hne, hblanks, rfl, -⟩ := Text.afterBlanks?_eq_some_iff.mp h₂
    obtain rfl := Text.after?_eq_some_iff.mp h₃
    split at h
    · cases h
    · next hname =>
      obtain ⟨hend, hsplit⟩ := Text.readUpTo?_eq_some_iff.mp h
      obtain ⟨hend', rfl⟩ := Text.readUpTo?_eq_some_iff.mp h₄
      have hhead : '}' ∉ "inputs.".toList ++ name := by
        rw [List.mem_append, not_or]
        exact ⟨by decide, hend'⟩
      rw [← List.append_assoc] at hsplit
      obtain ⟨rfl, rfl⟩ := Text.append_cons_inj hhead hend hsplit
      refine ⟨⟨hend, name, by simpa using hname, rfl⟩, word, hword, blanks, hne, hblanks, ?_⟩
      simp only [List.append_assoc]
  · rintro ⟨⟨hend, name, hname, rfl⟩, word, hword, blanks, hne, hblanks, rfl⟩
    have hname' : '}' ∉ name := fun hmem => hend (List.mem_append_right _ hmem)
    have hempty : name.isEmpty = false := by simpa using hname
    have hinput : ∀ c, ("inputs.".toList ++ name ++ '}' :: rest).head? = some c →
        isSpace c = false := by
      intro c hc
      obtain rfl : 'i' = c := Option.some.inj hc
      decide
    refine ⟨_, (Text.findSome?_after?_eq_some_iff hwords).mpr ⟨word, hword, rfl⟩,
      _, Text.afterBlanks?_eq_some_iff.mpr ⟨blanks, hne, hblanks, rfl, hinput⟩,
      name ++ '}' :: rest, ?_, name, rest, Text.readUpTo?_eq_some_iff.mpr ⟨hname', rfl⟩, ?_⟩
    · rw [List.append_assoc]
      exact Text.after?_eq_some_iff.mpr rfl
    · rw [hempty]
      exact Text.readUpTo?_eq_some_iff.mpr ⟨hend, rfl⟩

/-! ### Views -/

/-- A view is taken to begin with the first component behind its condition. -/
structure Opening (page : Page) (view : Hit Text) (tag : Tag) (between : Text) : Prop where
  /-- The tag is the first behind the condition that shows data. -/
  first : page.FirstDisplay view.stop tag
  /-- It stands behind the text. -/
  split : ∃ rest, view.ahead = between ++ rest ∧ rest.head? = some '<' ∧
    tag.start = view.stop + Text.utf8Size between

section

variable {page : Page} {view : Hit Text} {tag : Tag} {between : Text}

/-- The condition of a view ends at the size of the text up to there. -/
theorem stop_eq (view : Hit Text) :
    view.stop = Text.utf8Size (view.behind.reverse ++ view.source) := by
  rw [Text.utf8Size_append, Text.utf8Size_reverse, Hit.stop, Hit.start]

/-- The parts of a page around the condition of a view. -/
theorem text_eq (hview : view ∈ page.text.hits viewCondition) :
    page.text = (view.behind.reverse ++ view.source) ++ view.ahead := by
  obtain ⟨-, -, htext⟩ := Text.read_of_mem_hits viewCondition_consumes hview
  rw [List.append_assoc]
  exact htext

/-- A text stands between a condition and the first component behind it. -/
theorem exists_opening (hview : view ∈ page.text.hits viewCondition)
    (hfirst : page.FirstDisplay view.stop tag) : ∃ between, Opening page view tag between := by
  obtain ⟨before, rest, htext, hstart, hrest⟩ := Tag.exists_split hfirst.mem
  have hle := hfirst.le_start
  rw [← hstart, stop_eq] at hle
  obtain ⟨between, rfl, hahead⟩ := Text.exists_of_boundaries ((text_eq hview).symm.trans htext) hle
  refine ⟨between, hfirst, rest, hahead, hrest, ?_⟩
  rw [← hstart, Text.utf8Size_append _ between, stop_eq]

/-- A view begins with one component at most. -/
theorem Opening.unique {tag' : Tag} {between' : Text} (h : Opening page view tag between)
    (h' : Opening page view tag' between') : tag = tag' ∧ between = between' := by
  obtain rfl := h.first.unique h'.first
  obtain ⟨rest, hahead, -, hstart⟩ := h.split
  obtain ⟨rest', hahead', -, hstart'⟩ := h'.split
  have hsize : Text.utf8Size between = Text.utf8Size between' := by omega
  exact ⟨rfl, (Text.append_inj_of_utf8Size_eq (hahead.symm.trans hahead') hsize).1⟩

/-- A component that a view is taken to begin with is found when no boundary stands before it. -/
theorem Opening.firstDisplay?_eq_some_iff (hview : view ∈ page.text.hits viewCondition)
    (h : Opening page view tag between) :
    firstDisplay? page view.stop (viewEnd view.stop view.ahead (Text.utf8Size page.text)) =
      some tag ↔ ¬HoldsBoundary between := by
  obtain ⟨rest, hahead, hrest, hstart⟩ := h.split
  have hsize : Text.utf8Size page.text = view.stop + Text.utf8Size (between ++ rest) := by
    rw [text_eq hview, Text.utf8Size_append, ← stop_eq, hahead]
  rw [Rule.firstDisplay?_eq_some_iff, hstart, hsize, hahead, lt_viewEnd_iff hrest]
  exact and_iff_right h.first

/-- **The views that are reported** do not switch between forms only, begin with a component before
which no boundary stands, and have too little prose before it. -/
theorem viewNotice?_eq_some_iff (hview : view ∈ page.text.hits viewCondition) {notice : Notice} :
    viewNotice? page view = some notice ↔
      isFormSwitch (Text.trim view.value) = false ∧ ∃ tag between, Opening page view tag between ∧
        ¬HoldsBoundary between ∧ shortOpening? view.behind.reverse between = some notice := by
  have hbehind : (page.text.slice? view.stop (Text.utf8Size page.text)).getD [] = view.ahead := by
    rw [text_eq hview, stop_eq, Text.slice?_behind, Option.getD_some]
  have hbefore : (page.text.slice? 0 view.start).getD [] = view.behind.reverse := by
    have hslice := Text.slice?_between [] view.behind.reverse (view.source ++ view.ahead)
    rw [List.nil_append, List.nil_append, ← List.append_assoc, ← text_eq hview,
      Text.utf8Size_reverse] at hslice
    rw [Hit.start, ← Text.utf8Size_nil, hslice, Option.getD_some]
  have hopening : ∀ {tag between}, Opening page view tag between →
      (page.text.slice? view.stop tag.start).getD [] = between := by
    intro tag between h
    obtain ⟨rest, hahead, -, hstart⟩ := h.split
    rw [hstart, text_eq hview, stop_eq, hahead, ← Text.utf8Size_append, Text.slice?_between,
      Option.getD_some]
  simp only [viewNotice?, hbehind, hbefore]
  split
  · next hswitch => simp [hswitch]
  · next hswitch =>
    refine Iff.trans Option.bind_eq_some_iff (Iff.trans ?_ (and_iff_right (by simpa using hswitch)).symm)
    constructor
    · rintro ⟨tag, hfound, hshort⟩
      obtain ⟨between, hopens⟩ := exists_opening hview (firstDisplay?_eq_some_iff.mp hfound).1
      rw [hopening hopens] at hshort
      exact ⟨tag, between, hopens, (hopens.firstDisplay?_eq_some_iff hview).mp hfound, hshort⟩
    · rintro ⟨tag, between, hopens, hclear, hshort⟩
      refine ⟨tag, (hopens.firstDisplay?_eq_some_iff hview).mpr hclear, ?_⟩
      rw [hopening hopens]
      exact hshort

end

/-- Does a delimiter of branches stand in the text? The boundaries are delimiters, and so is the start
of the branch without a condition. -/
def HoldsDelimiter (t : Text) : Prop := HoldsBoundary t ∨ "\x7b:else\x7d".toList <:+: t

/-- Where no boundary stands in a text, either no delimiter does, or only the start of the branch
without a condition. -/
theorem not_holdsBoundary_iff {t : Text} :
    ¬HoldsBoundary t ↔
      ¬HoldsDelimiter t ∨ ¬HoldsBoundary t ∧ "\x7b:else\x7d".toList <:+: t := by
  rw [HoldsDelimiter, not_or]
  constructor
  · intro hclear
    by_cases helse : "\x7b:else\x7d".toList <:+: t
    · exact Or.inr ⟨hclear, helse⟩
    · exact Or.inl ⟨hclear, helse⟩
  · rintro (⟨hclear, -⟩ | ⟨hclear, -⟩)
    · exact hclear
    · exact hclear

end Rule

namespace Checker

/-- **The views that are reported.** A view begins behind a condition on an input. It is reported if it
does not switch between forms only and the first component behind its condition has too little prose
before it, in two cases: no delimiter stands before the component, so that the component is in the
view's own branch, or only the start of the branch without a condition does, and the component is in
that branch. -/
theorem conditionalViews_exact (checker : Checker) (page : Page) :
    let views := page.text.hits Rule.viewCondition
    checker.findingsOf .conditionalViews page =
        (views.filterMap (Rule.viewNotice? page)).map (·.inFile page.path) ∧
      ∀ view ∈ views, Rule.IsCondition view.value ∧
        ∀ notice, Rule.viewNotice? page view = some notice ↔
          Rule.isFormSwitch (Text.trim view.value) = false ∧
            ∃ tag between, Rule.Opening page view tag between ∧
              (¬Rule.HoldsDelimiter between ∨
                ¬Rule.HoldsBoundary between ∧ "\x7b:else\x7d".toList <:+: between) ∧
              Rule.shortOpening? view.behind.reverse between = some notice := by
  intro views
  refine ⟨rfl, ?_⟩
  intro view hview
  obtain ⟨-, hread, -⟩ := Text.read_of_mem_hits Rule.viewCondition_consumes hview
  refine ⟨(Rule.viewCondition_eq_some_iff.mp hread).1, ?_⟩
  intro notice
  rw [Rule.viewNotice?_eq_some_iff hview]
  simp only [← Rule.not_holdsBoundary_iff]

/-- A view whose branch has no component is reported for a component of the branch behind it. -/
theorem conditionalViews_elseBranch :
    let page : Page := ⟨"p.md",
      "\x7b#if inputs.view\x7d\nSee below.\n\x7b:else\x7d\n<LineChart data=\x7bq\x7d/>\n\x7b/if\x7d\n".toList⟩
    ∃ view tag between, page.text.hits Rule.viewCondition = [view] ∧
      Rule.Opening page view tag between ∧ Rule.HoldsDelimiter between ∧
      (plain.findingsOf .conditionalViews page).map (·.rule) = ["CONTENT_IFELSE"] := by
  intro page
  let between : Text := "\nSee below.\n\x7b:else\x7d\n".toList
  let rest : Text := "<LineChart data=\x7bq\x7d/>\n\x7b/if\x7d\n".toList
  have hviews : (page.text.hits Rule.viewCondition).map (fun view => (view.stop, view.ahead)) =
      [(17, between ++ rest)] := by decide +kernel
  have htags : page.tags.map (fun tag => (tag.start, tag.kind.isDisplay)) = [(37, true)] := by
    decide +kernel
  obtain ⟨view, hview, hsplit⟩ := List.map_eq_singleton_iff.mp hviews
  obtain ⟨tag, htag, hshape⟩ := List.map_eq_singleton_iff.mp htags
  obtain ⟨hstop, hahead⟩ := Prod.mk.inj hsplit
  obtain ⟨hstart, hdisplay⟩ := Prod.mk.inj hshape
  have hfirst : page.FirstDisplay view.stop tag := by
    refine ⟨htag ▸ List.mem_cons_self, hdisplay, by omega, ?_⟩
    intro other hother _ _
    obtain rfl := List.mem_singleton.mp (htag ▸ hother)
    exact Nat.le_refl _
  refine ⟨view, tag, between, hview, ⟨hfirst, rest, hahead, rfl, ?_⟩, Or.inr ?_, ?_⟩
  · rw [hstart, hstop]
    decide +kernel
  · decide +kernel
  · decide +kernel

end Checker

end PageLint
