import PageLint.Proofs.AreaCharts
import PageLint.Proofs.AttributePlaces
import PageLint.Proofs.BuiltinCheckers
import PageLint.Proofs.LowerCase
import PageLint.Proofs.Ordering
import PageLint.Proofs.TagSpans

/-!
# Colours of series

The rule about colours compares lists of categories with the charts that get their series from a
column. Whether there is such a chart it does not ask the tags of the page: it searches the lower case
of the whole page for `series=` and the column (`Page.MarksSeries`). A chart that writes its series so
is found (`Tag.WritesSeries.marksSeries`). But the mark may stand elsewhere, in prose or in a query,
and it is found at the beginning of longer names of columns.

## Main results

* `Rule.seriesColors_eq`: the lists that are reported, and how.
* `Tag.WritesSeries.marksSeries`: a chart that writes its series as a plain word is found.
* `Checker.colorFindings_exact`: **the findings about colours**, and when there is a chart behind them.
-/

namespace PageLint

/-! ### Characters -/

/-- A plain word begins neither with a quote nor with a brace. -/
theorem Text.IsPlainWord.head? {w : Text} (h : w.IsPlainWord) {c : Char} (hc : w.head? = some c) :
    ¬Attributes.IsQuote c ∧ c ≠ '{' := by
  have hplain : IsPlainChar c := h.2 c (List.mem_of_mem_head? hc)
  exact ⟨fun hquote => hplain.ne (.inr hquote) rfl, hplain.ne (.inl rfl)⟩

/-! ### Marks -/

/-- What the rule searches for: `series=` and the column, in lower case. -/
def seriesMark (column : String) : Text := "series=".toList ++ Text.lower column.toList

namespace Page

/-- The mark of a column stands in the text behind `before`, in any letter case. -/
structure MarksSeriesAt (page : Page) (column : String) (before ahead : Text) : Prop where
  /-- The place. -/
  text : page.text = before ++ ahead
  /-- What stands there. -/
  mark : seriesMark column <+: Text.lowerFrom before.reverse ahead

/-- Does the mark of a column stand anywhere in the text? -/
def MarksSeries (page : Page) (column : String) : Prop :=
  ∃ before ahead, page.MarksSeriesAt column before ahead

/-- The search in the page in lower case finds the mark of a column in any letter case. -/
theorem occursIn_seriesMark_iff {page : Page} {column : String} :
    Text.occursIn (seriesMark column) page.text.lower = true ↔ page.MarksSeries column := by
  have hmark : seriesMark column = 's' :: ("eries=".toList ++ Text.lower column.toList) := rfl
  rw [Text.occursIn_iff, hmark, Text.infix_lower_iff (by decide), ← hmark]
  constructor
  · rintro ⟨before, ahead, htext, hplace⟩
    exact ⟨before, ahead, htext, hplace⟩
  · rintro ⟨before, ahead, htext, hplace⟩
    exact ⟨before, ahead, htext, hplace⟩

instance (page : Page) (column : String) : Decidable (page.MarksSeries column) :=
  decidable_of_iff _ occursIn_seriesMark_iff

end Page

namespace Tag

/-- Is the column the series of the tag, in any letter case? -/
def HasSeries (tag : Tag) (column : String) : Prop :=
  ∃ v, tag.bare? "series" = some v ∧ v.lower = Text.lower column.toList

/-- The comparison in lower case finds the series of a tag in any letter case. -/
theorem any_bare?_iff {tag : Tag} {column : String} :
    (tag.bare? "series").any (·.lower == Text.lower column.toList) = true ↔
      tag.HasSeries column := by
  simp [HasSeries, Option.any_eq_true]

instance (tag : Tag) (column : String) : Decidable (tag.HasSeries column) :=
  decidable_of_iff _ any_bare?_iff

/-- Does the tag write its series as `series=` and the column, without blanks, quotes or braces? -/
def WritesSeries (tag : Tag) (column : String) : Prop :=
  ∃ w : Text, w.IsPlainWord ∧ w.lower = Text.lower column.toList ∧
    (Attributes.pieces tag.raw).find? (·.isNamed "series") =
      some (.valued "series".toList [] [] w)

variable {tag : Tag} {column : String}

/-- A series that is written as a plain word is the series of the tag. -/
theorem WritesSeries.hasSeries (h : tag.WritesSeries column) : tag.HasSeries column := by
  obtain ⟨w, hplain, hlower, hpiece⟩ := h
  have hget : tag.attributes.get? "series" = some w := by
    rw [Tag.attributes, Attributes.get?_eq_bind_find?, hpiece]
    rfl
  refine ⟨w, ?_, hlower⟩
  rw [Tag.bare?, Attributes.bare?, hget, Option.map_some, Attributes.bareValue_of_isPlainWord hplain]

/-- **A chart that writes its series is found.** -/
theorem WritesSeries.marksSeries {page : Page} (h : tag.WritesSeries column)
    (htag : tag ∈ page.tags) : page.MarksSeries column := by
  obtain ⟨w, hplain, hlower, hpiece⟩ := h
  obtain ⟨before, c, ahead, htext, -, hc⟩ := exists_eq_raw htag
  obtain ⟨front, back, hraw, -, -, hends⟩ :=
    Attributes.exists_valued_of_mem_pieces (List.mem_of_find?_eq_some hpiece)
  have hbehind : Text.Breaks ("series=".toList.reverse ++ (before ++ front).reverse) := by
    rw [show "series=".toList.reverse = '=' :: "seires".toList by decide]
    exact Text.breaks_cons _ (by decide +kernel) (by decide +kernel)
  have hahead : Text.Breaks (back ++ c :: ahead) := by
    cases back with
    | nil =>
        rcases hc with rfl | rfl | hspace
        · exact Text.breaks_cons _ (by decide +kernel) (by decide +kernel)
        · exact Text.breaks_cons _ (by decide +kernel) (by decide +kernel)
        · exact Text.breaks_of_isSpace _ hspace
    | cons d back =>
        have hblank := hends.isAsciiSpace_of_head? (fun _ => hplain.head?) (List.head?_cons ..)
        exact Text.breaks_of_isSpace _ (isSpace_of_isAsciiSpace hblank)
  refine ⟨before ++ front, "series=".toList ++ (w ++ (back ++ c :: ahead)), ?_, ?_⟩
  · rw [htext, hraw]
    simp [Attributes.Piece.text]
  · rw [Text.lowerFrom_append_of_lower (by decide), Text.lowerFrom_between hbehind hahead, hlower]
    unfold seriesMark
    rw [← List.append_assoc]
    exact List.prefix_append _ _

end Tag

/-! ### The rule -/

namespace Rule

/-- Are the categories of a list in alphabetical order? -/
def InOrder (seen : List Text) : Prop := seen.Pairwise fun a b => ¬b < a

instance : DecidablePred InOrder := fun seen =>
  inferInstanceAs (Decidable (seen.Pairwise fun a b => ¬b < a))

/-- The categories of a family that each list of the page names, list by list. -/
def namedCategories (page : Page) (family : SeriesOrder) : List (List Text) :=
  (page.text.hits yList).map fun h =>
    listedCategories (family.categories.map fun c => normalizeItem c.toList) h.value

/-- The warning about a list that is out of order. -/
def outOfOrder (column : String) (seen : List Text) : Notice :=
  .warn "COMPONENT_COLOR_ORDER" ("Wide-format chart lists " ++
    (Text.join ", ".toList seen).str ++ " but the series=" ++ column ++
    " chart sorts alphabetically (" ++ (Text.join ", ".toList (sortTexts seen)).str ++
    "); colours will be swapped between charts. Reorder y=[...] to match.")

/-- Sorting changes a list unless it is in order. -/
theorem eq_sortTexts_iff {seen : List Text} : seen = sortTexts seen ↔ InOrder seen := by
  have hle : ∀ a b : Text, (!(decide (b < a))) = true ↔ a ≤ b := by
    intro a b
    rw [Bool.not_eq_true', decide_eq_false_iff_not]
    exact Std.not_lt
  constructor
  · intro h
    have hsorted : (sortTexts seen).Pairwise fun a b => (!(decide (b < a))) = true := by
      refine List.pairwise_mergeSort ?_ ?_ seen
      · intro a b c hab hbc
        rw [hle] at hab hbc ⊢
        exact Std.le_trans hab hbc
      · intro a b
        rw [Bool.or_eq_true, hle, hle]
        exact Std.le_total
    rw [← h] at hsorted
    exact hsorted.imp fun hab => by simpa using hab
  · intro h
    exact (List.mergeSort_of_pairwise (h.imp fun hab => by simpa using hab)).symm

/-- A list with at most one category is in order. -/
theorem inOrder_of_length_lt {seen : List Text} (h : seen.length < 2) : InOrder seen := by
  match seen, h with
  | [], _ => exact List.Pairwise.nil
  | [a], _ => exact List.pairwise_singleton _ a

/-- The warnings about the lists of one family: one for each that is out of order. -/
def listWarnings (page : Page) (family : SeriesOrder) : List Notice :=
  ((namedCategories page family).filter (¬InOrder ·)).map (outOfOrder family.seriesColumn)

/-- The warnings about a family are those about its lists that are out of order. -/
theorem familyColors_eq (page : Page) (family : SeriesOrder) :
    familyColors page family = listWarnings page family := by
  have hcond : ∀ seen : List Text, (seen.length < 2 ∨ seen = sortTexts seen) ↔ InOrder seen :=
    fun seen => ⟨fun hor => hor.elim inOrder_of_length_lt eq_sortTexts_iff.mp,
      fun horder => Or.inr (eq_sortTexts_iff.mpr horder)⟩
  rw [familyColors, listWarnings, namedCategories, List.filter_map, List.map_map]
  refine filterMap_eq_map_filter (fun h => ?_) _
  simp only [hcond, ite_not, Function.comp_apply]
  rfl

/-- The warnings about the colours of one family: there are none where its mark does not stand in the
page. -/
def colorWarnings (page : Page) (family : SeriesOrder) : List Notice :=
  if page.MarksSeries family.seriesColumn then listWarnings page family else []

/-- **The lists that are reported**: for each family whose mark stands in the page, those that are out
of order. -/
theorem seriesColors_eq (checker : Checker) (page : Page) :
    seriesColors checker page = checker.tables.seriesOrders.flatMap (colorWarnings page) := by
  rw [seriesColors]
  refine List.flatMap_congr fun family _ => ?_
  rw [colorWarnings, familyColors_eq]
  simp only [← Page.occursIn_seriesMark_iff]
  rfl

end Rule

namespace Page

/-- Does the place behind `before` lie in a chart that has the column as its series? -/
def InSeriesChart (page : Page) (column : String) (before : Text) : Prop :=
  ∃ tag ∈ page.charts, (tag.start ≤ Text.utf8Size before ∧ Text.utf8Size before < tag.stop) ∧
    tag.HasSeries column

instance (page : Page) (column : String) (before : Text) :
    Decidable (page.InSeriesChart column before) :=
  inferInstanceAs (Decidable (∃ tag ∈ page.charts, _))

/-- Does the mark of a column stand only in charts that have the column as their series? -/
def MarksOnlyCharts (page : Page) (column : String) : Prop :=
  ∀ before ahead, page.MarksSeriesAt column before ahead → page.InSeriesChart column before

/-- The places of a text are found by counting characters. -/
theorem marksOnlyCharts_of_all {page : Page} {column : String}
    (h : (List.range (page.text.length + 1)).all (fun i =>
      !Text.startsWith (Text.lowerFrom (page.text.take i).reverse (page.text.drop i))
        (seriesMark column) || decide (page.InSeriesChart column (page.text.take i))) = true) :
    page.MarksOnlyCharts column := by
  rintro before ahead ⟨htext, hmark⟩
  have htake : page.text.take before.length = before := by rw [htext, List.take_left]
  have hdrop : page.text.drop before.length = ahead := by rw [htext, List.drop_left]
  have hlt : before.length < page.text.length + 1 := by
    rw [htext, List.length_append]
    omega
  have hplace := List.all_eq_true.mp h before.length (List.mem_range.mpr hlt)
  rw [htake, hdrop, Text.startsWith_iff.mpr hmark] at hplace
  simpa using hplace

end Page

namespace Checker

/-- **The findings about colours.** They come family by family, in the order of the families: if the
mark of its column stands somewhere in the page, in any letter case, there is one warning for each list
whose categories are out of order, and there is none if not. A chart that writes its series as a plain
word puts the mark in the page. If the mark stands nowhere but in charts of that series, each finding
has such a chart behind it. -/
theorem colorFindings_exact (checker : Checker) (page : Page) :
    checker.findingsOf .seriesColors page = checker.tables.seriesOrders.flatMap (fun family =>
      (Rule.colorWarnings page family).map (·.inFile page.path)) ∧
    ∀ family ∈ checker.tables.seriesOrders,
      (∀ tag ∈ page.charts, tag.WritesSeries family.seriesColumn →
        tag.HasSeries family.seriesColumn ∧
        Rule.colorWarnings page family = Rule.listWarnings page family) ∧
      (page.MarksOnlyCharts family.seriesColumn → Rule.colorWarnings page family ≠ [] →
        ∃ tag ∈ page.charts, tag.HasSeries family.seriesColumn) := by
  refine ⟨?_, fun family _ => ⟨?_, ?_⟩⟩
  · have hrule : checker.findingsOf .seriesColors page =
        (Rule.seriesColors checker page).map (·.inFile page.path) := rfl
    rw [hrule, Rule.seriesColors_eq, List.map_flatMap]
  · intro tag htag hwrites
    have hmarks := hwrites.marksSeries (List.mem_of_mem_filter htag)
    exact ⟨hwrites.hasSeries, if_pos hmarks⟩
  · intro honly hne
    by_cases hmarks : page.MarksSeries family.seriesColumn
    · obtain ⟨before, ahead, hplace⟩ := hmarks
      obtain ⟨tag, htag, -, hseries⟩ := honly before ahead hplace
      exact ⟨tag, htag, hseries⟩
    · exact absurd (if_neg hmarks) hne

/-- A list out of order beside a chart that writes its series: the warning has that chart behind it. -/
theorem colorFindings_exact_seriesChart :
    let page : Page := ⟨"p.md",
      ("<BarChart data=\x7ba\x7d y=\x7b['diesel_km', 'cng_km', 'ebus_km']\x7d/>\n" ++
      "<BarChart data=\x7bb\x7d series=fuel_type/>\n").toList⟩
    let seen := ["diesel".toList, "cng".toList, "ebus".toList]
    plain.findingsOf .seriesColors page =
        [(Rule.outOfOrder "fuel_type" seen).inFile page.path] ∧
      ∃ tag ∈ page.charts, tag.HasSeries "fuel_type" := by
  intro page seen
  let family : SeriesOrder := ⟨"fuel_type", ["cng", "diesel", "ebus"]⟩
  have hfamily : family ∈ plain.tables.seriesOrders := List.mem_singleton.mpr rfl
  obtain ⟨hfindings, hfamilies⟩ := colorFindings_exact plain page
  obtain ⟨hwrites, hbehind⟩ := hfamilies family hfamily
  obtain ⟨tag, htag, hword, hpiece⟩ : ∃ tag ∈ page.charts,
      tag.word? "series" = some "fuel_type".toList ∧
      (Attributes.pieces tag.raw).find? (·.isNamed "series") =
        some (.valued "series".toList [] [] "fuel_type".toList) := by
    decide +kernel
  obtain ⟨-, hwarnings⟩ := hwrites tag htag
    ⟨_, (Tag.word?_eq_some_iff.mp hword).2, rfl, hpiece⟩
  have hlists : (Rule.namedCategories page family).filter (¬Rule.InOrder ·) = [seen] := by
    decide +kernel
  rw [Rule.listWarnings, hlists] at hwarnings
  refine ⟨?_, hbehind (Page.marksOnlyCharts_of_all (by decide +kernel)) ?_⟩
  · have horders : plain.tables.seriesOrders = [family] := rfl
    rw [hfindings, horders, List.flatMap_singleton, hwarnings]
    rfl
  · rw [hwarnings]
    exact List.cons_ne_nil _ _

/-- A chart by a column with a longer name puts the mark of the shorter one in the page: the list is
reported, though no chart has the series that the warning names. -/
theorem colorFindings_longerName :
    let page : Page := ⟨"p.md",
      ("<BarChart data=\x7ba\x7d y=\x7b['diesel_km', 'cng_km', 'ebus_km']\x7d/>\n" ++
      "<BarChart data=\x7bb\x7d series=fuel_type_group/>\n").toList⟩
    ∃ family ∈ plain.tables.seriesOrders, ∃ seen : List Text,
      (Rule.outOfOrder family.seriesColumn seen).inFile page.path ∈
        plain.findingsOf .seriesColors page ∧
      ∀ tag ∈ page.charts, ¬tag.HasSeries family.seriesColumn := by
  intro page
  let family : SeriesOrder := ⟨"fuel_type", ["cng", "diesel", "ebus"]⟩
  let seen := ["diesel".toList, "cng".toList, "ebus".toList]
  have hfamily : family ∈ plain.tables.seriesOrders := List.mem_singleton.mpr rfl
  have hmarks : page.MarksSeries family.seriesColumn := by decide +kernel
  have hseen : seen ∈ (Rule.namedCategories page family).filter (¬Rule.InOrder ·) := by
    decide +kernel
  refine ⟨family, hfamily, seen, ?_, ?_⟩
  · have hwarning : Rule.outOfOrder family.seriesColumn seen ∈ Rule.colorWarnings page family := by
      rw [Rule.colorWarnings, if_pos hmarks]
      exact List.mem_map_of_mem hseen
    have hrule : Rule.outOfOrder family.seriesColumn seen ∈ Rule.seriesColors plain page := by
      rw [Rule.seriesColors_eq]
      exact List.mem_flatMap_of_mem hfamily hwarning
    exact List.mem_map_of_mem hrule
  · decide +kernel

end Checker

end PageLint
