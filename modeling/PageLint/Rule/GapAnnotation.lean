import PageLint.Checker
import PageLint.Markup.Page

/-!
# Rules about charts over time

Format strings, linked charts, and the annotation of gaps in the data.

* `Rule.gapAnnotations`: the gaps that a page over primary data leaves without annotation.
* `Rule.components`: these, and what else components get wrong.
-/

namespace PageLint.Rule

/-- Reads a quoted number format that holds `part`. -/
def formatWith (part : String) : Reader Unit := fun _ t => do
  let t ← Text.after? "fmt='".toList t
  let (format, t) ← Text.readUpTo? '\'' t
  if format.has part then return ((), t) else none

/-- A notice about a number format that asks for decimals with the digit one. -/
def badFormat (text : Text) (part fix : String) : List Notice :=
  if text.any (formatWith part) then
    [.error "COMPONENT_FMT" ("Invalid format string; the decimal digit count uses '0' not '1' (#,##0.0 for one decimal, not #,##0.1). Fix: use " ++ fix)]
  else []

/-- The bounds of a shaded range, each without its wrapping and empty when it is missing. -/
def annotatedBounds (page : Page) : List (Text × Text) :=
  (page.tagsOf .referenceArea).map fun t => ((t.bare? "xMin").getD [], (t.bare? "xMax").getD [])

/-- Is the gap the range of one of the annotations? -/
def isAnnotated (areas : List (Text × Text)) (gap : Gap.Range) : Bool :=
  areas.contains (gap.startIso.toList, gap.stopIso.toList)

/-- The notice about a gap that is not annotated; `sources` says for whom. -/
def unannotated (gap : Gap.Range) (sources : String) : Notice :=
  .warn "COMPONENT_GAPS" ("Missing " ++ gap.label ++ " gap annotation" ++ sources ++ " (xMin='" ++
    gap.startIso ++ "' xMax='" ++ gap.stopIso ++ "')")

/-- The sources of a gap that the SQL reads. -/
def queriedSources (checker : Checker) (sql : Text) (gap : Gap.Range) : List String :=
  gap.sources.filter (checker.queriesTable sql)

/-- The gaps that lack an annotation. A page without any annotation gets one notice for all
universal gaps. On any other page every universal gap counts, and every gap of a single source that
the page reads. -/
def unannotatedGaps (checker : Checker) (page : Page) : List Notice :=
  let areas := annotatedBounds page
  let gaps := checker.gaps
  if areas.isEmpty then
    if gaps.universal.isEmpty then []
    else [.warn "COMPONENT_GAPS"
      ("Time-series page over primary data has no ReferenceArea gap annotations; add annotations for: "
        ++ String.intercalate ", " (gaps.universal.map (·.label)))]
  else
    let sql := page.sql
    ((gaps.universal.filter (!isAnnotated areas ·)).map (unannotated · "")) ++
    gaps.sourceOnly.filterMap fun gap =>
      match queriedSources checker sql gap with
      | [] => none
      | queried =>
        if isAnnotated areas gap then none
        else some (unannotated gap (" for " ++ String.intercalate ", " queried))

/-- The line charts over time that close themselves, so that no annotation fits into them. -/
def closedTimeSeries (checker : Checker) (page : Page) : List Notice :=
  let axis := checker.tables.dateAxis
  ((page.timeSeries axis).filter fun t => t.kind == .lineChart && t.selfClosing).map fun t =>
    .warn "COMPONENT_GAPS" ("Self-closing LineChart '" ++ t.title.str ++ "' uses " ++ axis ++
      " but cannot contain <ReferenceArea> children; convert it to an open/close tag and add gap annotations")

/-- The notices about gaps on a page that charts primary data over time. -/
def gapAnnotations (checker : Checker) (page : Page) : List Notice :=
  if !(page.timeSeries checker.tables.dateAxis).isEmpty && checker.queriesPrimary page.sql then
    unannotatedGaps checker page ++ closedTimeSeries checker page
  else []

/-- Charts over time on one page are linked, so that their tooltips move together. -/
def linkedCharts (checker : Checker) (page : Page) : List Notice :=
  let series := page.timeSeries checker.tables.dateAxis
  let linked := series.countP (·.has "connectGroup")
  if 2 ≤ series.length ∧ linked < series.length then
    [.warn "COMPONENT_CONNECT" (toString series.length ++ " time-series charts but only " ++
      toString linked ++
      " use connectGroup=; add connectGroup to synchronize tooltip hover across charts")]
  else []

/-- Format strings, a retired attribute, linked charts and gap annotations. -/
def components (checker : Checker) (page : Page) : List Notice :=
  badFormat page.text "#,##0.1" "#,##0.0" ++
  badFormat page.text "#0.1" "#0.0" ++
  (if page.text.has "scaleColor=" then
    [.warn "COMPONENT_DEPRECATED" "scaleColor= is deprecated; use colorScale="] else []) ++
  linkedCharts checker page ++
  gapAnnotations checker page

end PageLint.Rule
