import PageLint.Checker
import PageLint.Markup.Page
import PageLint.Text.Lowercase

/-!
# Rules about the attributes of charts, tables, cards and maps

* `Rule.affordances`: what keeps a chart from misleading: number formats of years, the type of
  charts with several series, missing values, zero lines and marker lines.
* `Rule.maps`: the attributes of point maps.
* `Rule.presentation`: titles, axis titles, page sizes and number formats.
-/

namespace PageLint.Rule

/-- The title of a tag in double quotes. -/
def quotedTitle (t : Tag) : String :=
  match t.title? with
  | some title => "\"" ++ title.str ++ "\""
  | none => "(no title)"

/-- The opening of the tag's name. -/
def opening (t : Tag) : String := "<" ++ t.kind.name

/-- Does the text hold one of the keywords? -/
def hasKeyword (keywords : List String) (t : Text) : Bool := keywords.any (t.has ·)

/-- A column of years needs a format without separators. -/
def yearFormats (tables : RuleTables) (page : Page) : List Notice :=
  page.charts.filterMap fun t =>
    match t.word? "x" with
    | some x =>
      if (tables.integerYearColumns.any (·.toList == x)) && !t.has "xFmt" then
        some (.warn "CHART_XFMT_YEAR" (opening t ++ " x=" ++ x.str ++
          "> missing xFmt='####'; the integer year column renders with a thousands separator ('2,021'). Add xFmt='####'."))
      else none
    | none => none

/-- A bar chart with several series needs a type. -/
def barTypes (page : Page) : List Notice :=
  ((page.tagsOf .barChart).filter fun t => !t.has "type" && (t.hasYList || t.has "series")).map
    fun t => .warn "BARCHART_MULTITYPE" ("<BarChart " ++ quotedTitle t ++
      "> has multiple series but no type=; add type=grouped (side-by-side comparison) or type=stacked (additive parts of a whole)")

/-- An area chart over time with several series says what to do about missing values. -/
def areaGaps (tables : RuleTables) (page : Page) : List Notice :=
  ((page.tagsOf .areaChart).filter fun t =>
    t.word? "x" == some tables.dateAxis.toList && (t.hasSeveralY || t.has "series") &&
      !t.has "handleMissing").map
    fun t => .error "AREACHART_MISSING" ("<AreaChart " ++ quotedTitle t ++
      "> is multi-series on " ++ tables.dateAxis ++
      " but missing handleMissing=gap; the default fills data gaps with false zeroes. Add handleMissing=gap so gaps render as breaks.")

/-- The first chart whose values may cross zero, and its column. -/
def zeroCrossing? (tables : RuleTables) (page : Page) : Option (Tag × Text) :=
  page.charts.findSome? fun t =>
    (t.word? "y").bind fun y =>
      if hasKeyword tables.zeroCrossKeywords y.lower then some (t, y) else none

/-- Values that may cross zero need a zero line. -/
def zeroLine (tables : RuleTables) (page : Page) : List Notice :=
  if (page.tagsOf .referenceLine).any fun t => t.bare? "y" == some ['0'] then []
  else
    match zeroCrossing? tables page with
    | some (t, y) => [.warn "REFERENCELINE_ZERO" (opening t ++ " " ++ quotedTitle t ++
        "> shows profit/loss values (y=" ++ y.str ++
        ") but has no <ReferenceLine y=0>; add a zero baseline: <ReferenceLine y=0 label=\"Breakeven\" color=base-content-muted hideValue=true/>")]
    | none => []

/-- The conditions of a marker that are given, each as whether the page meets it. -/
def markerConditions (page : Page) (marker : Marker) (pattern : Option Pattern) : List Bool :=
  (marker.pageNameContains.toList.map fun part =>
    Text.occursIn (Text.lower part.toList) page.fileName.lower) ++
  (if marker.chartColumns.isEmpty then []
    else [page.charts.any fun t => marker.chartColumns.any (t.raw.has ·)]) ++
  (pattern.toList.map fun p => p.occursIn page.text)

/-- The marker lines that the page needs and does not have. -/
def markerLines (checker : Checker) (page : Page) : List Notice :=
  checker.markers.filterMap fun (marker, pattern) =>
    let conditions := markerConditions page marker pattern
    let present := (page.tagsOf .referenceLine).any fun t => t.bare? "x" == some marker.x.toList
    if conditions.isEmpty || !conditions.all id || present then none
    else some (.warn marker.rule marker.message)

/-- What keeps a chart from misleading. -/
def affordances (checker : Checker) (page : Page) : List Notice :=
  let tables := checker.tables
  yearFormats tables page ++ barTypes page ++ areaGaps tables page ++ zeroLine tables page ++
    markerLines checker page

/-- The attributes of point maps. -/
def maps (_ : Checker) (page : Page) : List Notice :=
  (page.tagsOf .pointMap).flatMap fun t =>
    (if t.has "lon" then
      [.error "MAP_LON_PROP" "<PointMap> uses lon= but the prop is long=; lon= is silently ignored and the map fails with 'long is required'. Rename to long=."]
      else []) ++
    (if t.has "value" && !t.has "valueFmt" then
      [.warn "MAP_VALUE_FMT" ("<PointMap value=" ++ ((t.word? "value").getD ['?']).str ++
        "> missing valueFmt=; the bubble tooltip shows a raw integer. Add valueFmt='#,##0' or a currency/pct format.")]
      else [])

/-- Summary cards with an amount need a number format. -/
def cardFormats (tables : RuleTables) (page : Page) : List Notice :=
  (page.tagsOf .bigValue).filterMap fun t =>
    if t.has "fmt" then none
    else
      match t.word? "value" with
      | none => none
      | some value =>
        if hasKeyword tables.formatKeywords value.lower then
          some (.warn "BIGVALUE_FMT" ("<BigValue value=" ++ value.str ++
            "> missing fmt=; add a format string such as '#,##0' or '\"₹\"#,##0\" Cr\"'"))
        else none

/-- Titles, axis titles, types, page sizes and number formats. -/
def presentation (checker : Checker) (page : Page) : List Notice :=
  ((page.charts.filter (!·.has "title")).map fun t => .warn "CHART_TITLE" (opening t ++
    "> missing title=; every chart needs a title for reader orientation")) ++
  ((page.charts.filter (!·.has "yAxisTitle")).map fun t => .warn "CHART_YAXIS" (opening t ++
    "> missing yAxisTitle=; the axis label tells readers what units they are reading")) ++
  (((page.tagsOf .areaChart).filter fun t => t.hasSeveralY && !t.has "type").map fun _ =>
    .warn "CHART_AREA_TYPE" "<AreaChart> has multiple y-series but no type=; without type=stacked or type=stacked100 the series overlap") ++
  (if page.text.has "seriesLabels=" then
    [.warn "COMPONENT_INVALID_PROP" "seriesLabels= is not a valid prop and is silently ignored; rename series by aliasing columns in SQL (revenue AS \"Bus Revenue\")"]
    else []) ++
  (((page.tagsOf .dataTable).filter (!·.has "rows")).map fun _ => .warn "CHART_DATATABLE_ROWS"
    "<DataTable> missing rows=; set rows=all to show all records, or rows=N for an explicit page size") ++
  cardFormats checker.tables page

end PageLint.Rule
