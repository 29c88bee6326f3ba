import PageLint.Value
import PageLint.RuleTables.Builtin

/-!
# Rule tables from configuration

Every table that a configuration names takes the place of the built-in one; all others keep their
built-in values. The same holds for the tables about the data directory among themselves.

* `RuleTables.ofValue?`: the rule tables of a configuration.
-/

namespace PageLint

open Value

/-- The severity that a value names. -/
def Severity.ofValue? (v : Value) : Option Severity := v.string?.bind Severity.ofName?

/-- The list of texts of a value. -/
def texts? : Value → Option (List String) := listOf? string?

/-- A known issue from its fields. -/
def KnownIssue.ofValue? (v : Value) : Option KnownIssue := do
  let f ← v.record? ["file", "date", "entity", "column", "note"]
  return { file := ← f.required "file" string?
           date := ← f.required "date" string?
           entity := ← f.required "entity" string?
           column := ← f.required "column" string?
           note := ← f.required "note" string? }

/-- A gap from its fields. -/
def Gap.Interval.ofValue? (v : Value) : Option Gap.Interval := do
  let f ← v.record? ["source", "start", "end", "note"]
  return { source := ← f.required "source" string?
           start := ← f.required "start" string?
           stop := ← f.required "end" string?
           note := ← f.getD "note" string? "" }

/-- An unreliable column from its fields. -/
def UnreliableColumn.ofValue? (v : Value) : Option UnreliableColumn := do
  let f ← v.record? ["column", "replacement", "reason"]
  return { column := ← f.required "column" string?
           replacement := ← f.required "replacement" string?
           reason := ← f.getD "reason" string? "" }

/-- A marker from its fields. -/
def Marker.ofValue? (v : Value) : Option Marker := do
  let f ← v.record?
    ["rule", "x", "page_name_contains", "chart_columns", "content_pattern", "message"]
  return { rule := ← f.required "rule" string?
           x := ← f.required "x" string?
           pageNameContains := ← f.optional "page_name_contains" string?
           chartColumns := ← f.getD "chart_columns" texts? []
           contentPattern := ← f.optional "content_pattern" string?
           message := ← f.required "message" string? }

/-- A citation from its fields. -/
def Citation.ofValue? (v : Value) : Option Citation := do
  let f ← v.record? ["trigger", "url"]
  return { trigger := ← f.required "trigger" string?
           url := ← f.required "url" string? }

/-- A family of categories from its fields. -/
def SeriesOrder.ofValue? (v : Value) : Option SeriesOrder := do
  let f ← v.record? ["series_column", "categories"]
  return { seriesColumn := ← f.required "series_column" string?
           categories := ← f.required "categories" texts? }

/-- The part of a table that a value names. -/
def TableRole.ofValue? (v : Value) : Option TableRole :=
  match v.string? with
  | some "primary" => some .primary
  | some "secondary" => some .secondary
  | some "other" => some .other
  | _ => none

/-- An entity table from its fields. -/
def EntityTable.ofValue? (v : Value) : Option EntityTable := do
  let f ← v.record?
    ["file", "label", "entity_column", "period_column", "exclude", "role", "required"]
  return { file := ← f.required "file" string?
           label := ← f.required "label" string?
           entityColumn := ← f.required "entity_column" string?
           periodColumn := ← f.optional "period_column" string?
           exclude := ← f.getD "exclude" texts? []
           role := ← f.required "role" TableRole.ofValue?
           required := ← f.getD "required" bool? false }

/-- A table of places from its fields. -/
def LocationTable.ofValue? (v : Value) : Option LocationTable := do
  let f ← v.record? ["file", "entity_column", "coordinate_columns", "required"]
  return { file := ← f.required "file" string?
           entityColumn := ← f.required "entity_column" string?
           coordinateColumns := ← f.required "coordinate_columns" texts?
           required := ← f.getD "required" bool? false }

/-- A bound for values from its fields. -/
def RangeCheck.ofValue? (v : Value) : Option RangeCheck := do
  let f ← v.record? ["rule", "file", "column", "label", "unit", "max", "severity"]
  return { rule := ← f.required "rule" string?
           file := ← f.required "file" string?
           column := ← f.required "column" string?
           label := ← f.required "label" string?
           unit := ← f.getD "unit" string? ""
           max := ← f.required "max" number?
           severity := ← f.required "severity" Severity.ofValue? }

/-- A bound for sums from its fields. -/
def AggregateCheck.ofValue? (v : Value) : Option AggregateCheck := do
  let f ← v.record? ["rule", "file", "period", "column", "min_total", "expected", "severity"]
  return { rule := ← f.required "rule" string?
           file := ← f.required "file" string?
           period := ← f.required "period" string?
           column := ← f.required "column" string?
           minTotal := ← f.required "min_total" number?
           expected := ← f.required "expected" string?
           severity := ← f.required "severity" Severity.ofValue? }

/-- The way of reporting that a value names. -/
def ExpectMode.ofValue? (v : Value) : Option ExpectMode :=
  match v.string? with
  | some "each" => some .each
  | some "all" => some .all
  | _ => none

/-- Expected values from their fields. -/
def ValueExpectation.ofValue? (v : Value) : Option ValueExpectation := do
  let f ← v.record? ["column", "values", "mode", "severity", "message"]
  return { column := ← f.required "column" string?
           values := ← f.required "values" texts?
           mode := ← f.required "mode" ExpectMode.ofValue?
           severity := ← f.required "severity" Severity.ofValue?
           message := ← f.optional "message" string? }

/-- An expected number of rows from its fields. -/
def RowCount.ofValue? (v : Value) : Option RowCount := do
  let f ← v.record? ["expected", "exact", "note"]
  return { expected := ← f.required "expected" natural?
           exact := ← f.getD "exact" bool? false
           note := ← f.optional "note" string? }

/-- A reference file from its fields. -/
def ReferenceFile.ofValue? (v : Value) : Option ReferenceFile := do
  let f ← v.record? ["rule", "file", "required", "hint", "required_columns", "expect", "rows"]
  return { rule := ← f.required "rule" string?
           file := ← f.required "file" string?
           required := ← f.getD "required" bool? true
           hint := ← f.optional "hint" string?
           requiredColumns := ← f.getD "required_columns" texts? []
           expect := ← f.getD "expect" (listOf? ValueExpectation.ofValue?) []
           rows := ← f.optional "rows" RowCount.ofValue? }

/-- The tables about the data directory; a table that is not given keeps its built-in value. -/
def DataTables.ofValue? (v : Value) : Option DataTables := do
  let f ← v.record?
    ["entity_tables", "locations", "allowlisted_entities", "ranges", "aggregates", "references"]
  let d := DataTables.builtin
  return { entityTables := ← f.getD "entity_tables" (listOf? EntityTable.ofValue?) d.entityTables
           locations := ← f.getD "locations" (optional? LocationTable.ofValue?) d.locations
           allowlistedEntities :=
             ← f.getD "allowlisted_entities" (fun v => (texts? v).map Ascending.ofList)
               d.allowlistedEntities
           ranges := ← f.getD "ranges" (listOf? RangeCheck.ofValue?) d.ranges
           aggregates := ← f.getD "aggregates" (listOf? AggregateCheck.ofValue?) d.aggregates
           references := ← f.getD "references" (listOf? ReferenceFile.ofValue?) d.references }

/-- Keys with texts, ascending by key. -/
def names? (v : Value) : Option (List (String × String)) :=
  v.textMap?.map fun entries =>
    entries.foldl (fun names e => Ascending.put e.1 e.2 names) []

/-- The rule tables; a table that is not given keeps its built-in value. -/
def RuleTables.ofValue? (v : Value) : Option RuleTables := do
  let f ← v.record?
    ["primary_tables", "null_guard", "date_axis", "deprecated_names", "known_issues", "gaps",
     "capped_columns", "swapped_columns", "unreliable_columns", "integer_year_columns",
     "format_keywords", "zero_cross_keywords", "markers", "citations", "series_orders", "data"]
  let d := RuleTables.builtin
  return { primaryTables := ← f.getD "primary_tables" texts? d.primaryTables
           nullGuard := ← f.getD "null_guard" string? d.nullGuard
           dateAxis := ← f.getD "date_axis" string? d.dateAxis
           deprecatedNames := ← f.getD "deprecated_names" names? d.deprecatedNames
           knownIssues := ← f.getD "known_issues" (listOf? KnownIssue.ofValue?) d.knownIssues
           gaps := ← f.getD "gaps" (listOf? Gap.Interval.ofValue?) d.gaps
           cappedColumns := ← f.getD "capped_columns" texts? d.cappedColumns
           swappedColumns := ← f.getD "swapped_columns" texts? d.swappedColumns
           unreliableColumns :=
             ← f.getD "unreliable_columns" (listOf? UnreliableColumn.ofValue?) d.unreliableColumns
           integerYearColumns := ← f.getD "integer_year_columns" texts? d.integerYearColumns
           formatKeywords := ← f.getD "format_keywords" texts? d.formatKeywords
           zeroCrossKeywords := ← f.getD "zero_cross_keywords" texts? d.zeroCrossKeywords
           markers := ← f.getD "markers" (listOf? Marker.ofValue?) d.markers
           citations := ← f.getD "citations" (listOf? Citation.ofValue?) d.citations
           seriesOrders := ← f.getD "series_orders" (listOf? SeriesOrder.ofValue?) d.seriesOrders
           data := ← f.getD "data" DataTables.ofValue? d.data }

end PageLint
