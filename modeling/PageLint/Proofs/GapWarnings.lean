import PageLint.Proofs.BuiltinCheckers
import PageLint.Proofs.GapAdvice
import PageLint.Proofs.GapMerging
import PageLint.Proofs.Silencing
import PageLint.Proofs.TableReferences

/-!
# Warnings about gaps

What is said about gaps on a page is determined by the tags of the page, the SQL of the page and the
merged gaps. A gap is annotated when one tag of a shaded range gives both its bounds
(`Page.Annotates`); the bounds of two tags are never put together. Gaps count on pages that chart
primary data over time (`Page.ChartsPrimary`).

A gap may have a source that is no primary table. It is watched all the same
(`Checker.mem_watchedTables_of_mem_sources`), so a source counts as queried exactly when the SQL reads
it.

## Main results

* `Rule.isAnnotated_iff`: a gap is annotated by one tag with both bounds.
* `Rule.unannotatedGaps_eq`: the warnings about gaps that are not annotated.
* `Checker.gapFindings_exact`: **the warnings about gaps are exact**.
-/

namespace PageLint

/-! ### Pages -/

namespace Page

variable (page : Page)

/-- Does one tag of a shaded range give both bounds of the gap? -/
def Annotates (gap : Gap.Range) : Prop :=
  ∃ tag ∈ page.tags, tag.kind = .referenceArea ∧ tag.bare? "xMin" = some gap.startIso.toList ∧
    tag.bare? "xMax" = some gap.stopIso.toList

instance : DecidablePred page.Annotates := fun gap =>
  inferInstanceAs (Decidable (∃ tag ∈ page.tags, tag.kind = .referenceArea ∧
    tag.bare? "xMin" = some gap.startIso.toList ∧ tag.bare? "xMax" = some gap.stopIso.toList))

/-- Does the page hold a tag of a shaded range? -/
def HasArea : Prop := ∃ tag ∈ page.tags, tag.kind = .referenceArea

instance : Decidable page.HasArea :=
  inferInstanceAs (Decidable (∃ tag ∈ page.tags, tag.kind = .referenceArea))

/-- Does the page chart a primary table over time? -/
def ChartsPrimary (tables : RuleTables) : Prop :=
  (∃ tag ∈ page.tags, tag.kind.isChart = true ∧ tag.bare? "x" = some tables.dateAxis.toList) ∧
    ∃ table ∈ tables.primaryTables, Query.Reads page.sql table

instance (tables : RuleTables) : Decidable (page.ChartsPrimary tables) :=
  inferInstanceAs (Decidable ((∃ tag ∈ page.tags, tag.kind.isChart = true ∧
    tag.bare? "x" = some tables.dateAxis.toList) ∧
      ∃ table ∈ tables.primaryTables, Query.Reads page.sql table))

variable {page}

/-- A page has charts over time when a chart has the date axis as its `x`. -/
theorem timeSeries_ne_nil_iff {axis : String} :
    page.timeSeries axis ≠ [] ↔
      ∃ tag ∈ page.tags, tag.kind.isChart = true ∧ tag.bare? "x" = some axis.toList := by
  simp only [timeSeries, charts, ne_eq, List.filter_eq_nil_iff, List.mem_filter, not_forall,
    exists_prop, not_not, beq_iff_eq, and_assoc]

/-- The line charts over time that close themselves, among all tags. -/
theorem filter_timeSeries (axis : String) :
    ((page.timeSeries axis).filter fun t => t.kind == .lineChart && t.selfClosing) =
      page.tags.filter fun t =>
        t.kind == .lineChart && t.selfClosing && t.bare? "x" == some axis.toList := by
  rw [timeSeries, charts, List.filter_filter, List.filter_filter]
  refine List.filter_congr fun tag _ => ?_
  cases hkind : tag.kind == ComponentKind.lineChart with
  | false => rfl
  | true =>
      rw [beq_iff_eq.mp hkind]
      simp [ComponentKind.isChart, Bool.and_comm]

end Page

/-! ### Annotations -/

/-- A day is written with at least a hyphen. -/
theorem Month.toList_iso_ne_nil (m : Month) (day : Nat) : (m.iso day).toList ≠ [] := by
  simp [iso]

namespace Rule

/-- What is left of a missing value is no day. -/
theorem getD_eq_iff {value : Option Text} {m : Month} {day : Nat} :
    value.getD [] = (m.iso day).toList ↔ value = some (m.iso day).toList := by
  cases value with
  | none => simpa using (m.toList_iso_ne_nil day).symm
  | some text => simp

/-- **A gap is annotated by one tag** that gives both its bounds. -/
theorem isAnnotated_iff {page : Page} {gap : Gap.Range} :
    isAnnotated (annotatedBounds page) gap = true ↔ page.Annotates gap := by
  rw [isAnnotated, List.contains_iff_mem, annotatedBounds]
  simp only [List.mem_map, Page.tagsOf, List.mem_filter, beq_iff_eq, Prod.mk.injEq,
    Gap.Range.startIso, Gap.Range.stopIso, Month.firstDay, Month.lastDay, getD_eq_iff,
    Page.Annotates, and_assoc]

/-- There are no bounds where there is no tag of a shaded range. -/
theorem annotatedBounds_eq_nil_iff {page : Page} :
    annotatedBounds page = [] ↔ ¬page.HasArea := by
  simp only [annotatedBounds, List.map_eq_nil_iff, Page.tagsOf, List.filter_eq_nil_iff,
    Page.HasArea, not_exists, not_and, beq_iff_eq]

/-! ### Warnings -/

/-- The warning that names all gaps at once. -/
def allMissing (gaps : List Gap.Range) : Notice :=
  .warn "COMPONENT_GAPS"
    ("Time-series page over primary data has no ReferenceArea gap annotations; add annotations for: "
      ++ String.intercalate ", " (gaps.map (·.label)))

/-- The warning about a gap of some sources. -/
def missingFor (sources : List String) (gap : Gap.Range) : Notice :=
  unannotated gap (" for " ++ String.intercalate ", " sources)

/-- The warning about a line chart that closes itself. -/
def closed (axis : String) (tag : Tag) : Notice :=
  .warn "COMPONENT_GAPS" ("Self-closing LineChart '" ++ tag.title.str ++ "' uses " ++ axis ++
    " but cannot contain <ReferenceArea> children; convert it to an open/close tag and add gap annotations")

/-- The warnings about gaps that are not annotated: on a page without any shaded range one that names
the universal gaps, if there are any; on any other page one for each universal gap, and then one for
each other gap that has a queried source. -/
theorem unannotatedGaps_eq (checker : Checker) (page : Page) :
    unannotatedGaps checker page =
      if page.HasArea then
        ((checker.gaps.universal.filter (¬page.Annotates ·)).map (unannotated · "")) ++
        (checker.gaps.sourceOnly.filter fun gap =>
          ¬page.Annotates gap ∧ queriedSources checker page.sql gap ≠ []).map fun gap =>
            missingFor (queriedSources checker page.sql gap) gap
      else if checker.gaps.universal = [] then [] else [allMissing checker.gaps.universal] := by
  rw [unannotatedGaps]
  by_cases harea : page.HasArea
  · have hbounds : (annotatedBounds page).isEmpty = false := by
      rw [List.isEmpty_eq_false_iff]
      exact fun h => annotatedBounds_eq_nil_iff.mp h harea
    have huniversal : ∀ gap, (!isAnnotated (annotatedBounds page) gap) =
        decide (¬page.Annotates gap) := fun gap => by
      rw [Bool.eq_iff_iff, decide_eq_true_eq, Bool.not_eq_true', ← isAnnotated_iff,
        Bool.not_eq_true]
    simp only [hbounds, Bool.false_eq_true, if_false, if_pos harea, huniversal]
    congr 1
    rw [← List.filterMap_eq_map, List.filterMap_filter]
    refine List.filterMap_congr fun gap _ => ?_
    cases hqueried : queriedSources checker page.sql gap with
    | nil => simp
    | cons source sources =>
        by_cases hannotates : page.Annotates gap
        · simp [isAnnotated_iff.mpr hannotates, hannotates]
        · have hnot := mt isAnnotated_iff.mp hannotates
          simp [hnot, hannotates, missingFor, hqueried]
  · rw [annotatedBounds_eq_nil_iff.mpr harea, if_neg harea]
    cases checker.gaps.universal with
    | nil => rfl
    | cons gap gaps => rfl

end Rule

/-! ### Checkers -/

namespace Checker

variable {tables : RuleTables} {checker : Checker}

/-- The gaps of a checker are the merged gaps of its tables. -/
theorem gaps_of_ofTables (h : ofTables tables = .ok checker) :
    checker.gaps = Gap.Table.ofIntervals tables.gaps := by
  obtain ⟨markers, rfl⟩ := exists_of_ofTables h
  rfl

/-- The sources of the merged gaps are watched, whether they are primary tables or not. -/
theorem mem_watchedTables_of_mem_sources (h : ofTables tables = .ok checker) {gap : Gap.Range}
    (hgap : gap ∈ checker.gaps.sourceOnly) {source : String} (hsource : source ∈ gap.sources) :
    source ∈ checker.watchedTables := by
  rw [gaps_of_ofTables h] at hgap
  have hrange : gap ∈ Gap.ranges tables.gaps := (List.mem_filter.mp hgap).1
  obtain ⟨-, -, hsources⟩ := Gap.mem_ranges_iff.mp hrange
  obtain ⟨interval, hinterval, rfl, -⟩ := (hsources source).mp hsource
  refine List.mem_append_right _ (List.mem_map.mpr ⟨interval, ?_, rfl⟩)
  rwa [(eq_of_ofTables h).1]

/-- The queried sources of a gap are those that the SQL reads. -/
theorem queriedSources_eq (h : ofTables tables = .ok checker) {gap : Gap.Range}
    (hgap : gap ∈ checker.gaps.sourceOnly) (sql : Text) :
    Rule.queriedSources checker sql gap = gap.sources.filter (Query.Reads sql ·) := by
  refine List.filter_congr fun source hsource => ?_
  have hwatched := mem_watchedTables_of_mem_sources h hgap hsource
  rw [Bool.eq_iff_iff, queriesTable_iff, decide_eq_true_eq, and_iff_right hwatched]

/-- The warnings about gaps of single sources, in terms of the sources that the SQL reads. -/
theorem map_missingFor_queriedSources (h : ofTables tables = .ok checker) (page : Page) :
    ((checker.gaps.sourceOnly.filter fun gap =>
        ¬page.Annotates gap ∧ Rule.queriedSources checker page.sql gap ≠ []).map fun gap =>
          Rule.missingFor (Rule.queriedSources checker page.sql gap) gap) =
      (checker.gaps.sourceOnly.filter fun gap => ¬page.Annotates gap ∧
        ∃ source ∈ gap.sources, Query.Reads page.sql source).map fun gap =>
          Rule.missingFor (gap.sources.filter (Query.Reads page.sql ·)) gap := by
  have hfilter : (checker.gaps.sourceOnly.filter fun gap =>
      ¬page.Annotates gap ∧ Rule.queriedSources checker page.sql gap ≠ []) =
      checker.gaps.sourceOnly.filter fun gap => ¬page.Annotates gap ∧
        ∃ source ∈ gap.sources, Query.Reads page.sql source := by
    refine List.filter_congr fun gap hgap => ?_
    rw [queriedSources_eq h hgap]
    simp [List.filter_eq_nil_iff]
  rw [hfilter]
  refine List.map_congr_left fun gap hgap => ?_
  rw [queriedSources_eq h (List.mem_filter.mp hgap).1]

/-- Whether the rule about gaps applies to a page. -/
theorem applies_iff (h : ofTables tables = .ok checker) {page : Page} :
    (!(page.timeSeries checker.tables.dateAxis).isEmpty && checker.queriesPrimary page.sql) =
      true ↔ page.ChartsPrimary tables := by
  rw [(eq_of_ofTables h).1.symm, Bool.and_eq_true, Bool.not_eq_true', List.isEmpty_eq_false_iff,
    Page.timeSeries_ne_nil_iff, queriesPrimary_iff]
  rfl

/-- **The warnings about gaps are exact.** On a page that charts a primary table over time there are
warnings about gaps without annotation, and behind them one for each line chart over time that closes
itself. On a page without any shaded range the first are one warning that names all universal gaps, or
none if there is no such gap. On any other page they are, in the order of the merged gaps, one for each
universal gap that no single shaded range gives both bounds of, and then one for each such gap among
the others that has a source which the SQL reads, with just these sources. On all other pages nothing
is said about gaps. -/
theorem gapFindings_exact (h : ofTables tables = .ok checker) (page : Page) :
    let findings := (checker.findingsOf .components page).filter (·.rule == "COMPONENT_GAPS")
    let gaps := checker.gaps
    let axis := tables.dateAxis
    let charts := page.tags.filter fun t =>
      t.kind == .lineChart && t.selfClosing && t.bare? "x" == some axis.toList
    (page.ChartsPrimary tables → ∃ annotations : List Notice,
      findings = (annotations ++ charts.map (Rule.closed axis)).map (·.inFile page.path) ∧
      (¬page.HasArea → annotations =
        if gaps.universal = [] then [] else [Rule.allMissing gaps.universal]) ∧
      (page.HasArea → annotations =
        (gaps.universal.filter (¬page.Annotates ·)).map (Rule.unannotated · "") ++
        (gaps.sourceOnly.filter fun gap => ¬page.Annotates gap ∧
          ∃ source ∈ gap.sources, Query.Reads page.sql source).map fun gap =>
            Rule.missingFor (gap.sources.filter (Query.Reads page.sql ·)) gap)) ∧
    (¬page.ChartsPrimary tables → findings = []) ∧
    gaps = Gap.Table.ofIntervals tables.gaps := by
  intro findings gaps axis charts
  have hfindings : findings = (Rule.gapAnnotations checker page).map (·.inFile page.path) := by
    rw [← Rule.filter_components]
    exact List.filter_map
  have hclosed : Rule.closedTimeSeries checker page = charts.map (Rule.closed axis) := by
    rw [Rule.closedTimeSeries, (eq_of_ofTables h).1, Page.filter_timeSeries]
    rfl
  refine ⟨fun hcharts => ?_, fun hcharts => ?_, gaps_of_ofTables h⟩
  · refine ⟨Rule.unannotatedGaps checker page, ?_, fun harea => ?_, fun harea => ?_⟩
    · rw [hfindings, Rule.gapAnnotations, if_pos ((applies_iff h).mpr hcharts), hclosed]
    · rw [Rule.unannotatedGaps_eq, if_neg harea]
    · rw [Rule.unannotatedGaps_eq, if_pos harea]
      exact congrArg _ (map_missingFor_queriedSources h page)
  · rw [hfindings, Rule.gapAnnotations, if_neg (mt (applies_iff h).mp hcharts), List.map_nil]

/-- A page over primary data with two shaded ranges that each have one bound of two gaps: the bounds of
different ranges are not put together. The second gap has a source that is no primary table, and the
SQL reads it. -/
theorem gapFindings_exact_mixedBounds :
    let tables : RuleTables := { RuleTables.unmarked with
      primaryTables := ["trips"]
      gaps := [⟨"trips", "Jan 2024", "Mar 2024", ""⟩, ⟨"buses", "Jan 2024", "Mar 2024", ""⟩,
        ⟨"buses", "Jul 2025", "Jul 2025", ""⟩] }
    let area (bounds : Text) : Text := "<ReferenceArea ".toList ++ bounds ++ "/>\n".toList
    let page : Page := ⟨"lines.md", "```sql q\n".toList ++ "FROM trips JOIN buses\n".toList ++
      "```\n<LineChart ".toList ++ "x=date_parsed".toList ++ " title=Lines/>\n".toList ++
      area ("xMin='2024-01-01' ".toList ++ "xMax='2025-07-31'".toList) ++
      area ("xMin='2025-07-01' ".toList ++ "xMax=\x7b'2024-03-31'\x7d".toList)⟩
    ∃ checker, ofTables tables = .ok checker ∧ page.ChartsPrimary tables ∧ page.HasArea ∧
      ((checker.findingsOf .components page).filter (·.rule == "COMPONENT_GAPS")).map (·.message) =
        ["Missing Jan 2024–Mar 2024 gap annotation (xMin='2024-01-01' xMax='2024-03-31')",
         "Missing Jul 2025 gap annotation for buses (xMin='2025-07-01' xMax='2025-07-31')",
         "Self-closing LineChart 'Lines' uses date_parsed but cannot contain <ReferenceArea> children; convert it to an open/close tag and add gap annotations"] := by
  intro tables area page
  have htables : ofTables tables = .ok (ofUnmarked tables) :=
    ofTables_ofUnmarked
      (RuleTables.readsNames_ofText? (by decide +kernel) (by decide +kernel)) rfl
  have hcharts : page.ChartsPrimary tables := by decide +kernel
  have harea : page.HasArea := by decide +kernel
  obtain ⟨hwarnings, -, -⟩ := gapFindings_exact htables page
  obtain ⟨annotations, hfindings, -, hannotations⟩ := hwarnings hcharts
  refine ⟨_, htables, hcharts, harea, ?_⟩
  rw [hfindings, hannotations harea]
  decide +kernel

end Checker

end PageLint
