import PageLint.DataCheck.DataSet
import PageLint.Number.Decimal
import PageLint.Text.CharClass

/-!
# Bounds of values

Upper bounds for single values and lower bounds for sums over a period. A value or sum that a known
issue covers is accepted. Bounds of files that are not set up for them are misconfigured: they are
named in the log and never reported.

* `DataCheck.ranges`, `DataCheck.aggregates`: the findings.
* `DataCheck.misplacedRanges`, `DataCheck.misplacedAggregates`: the misconfigured bounds.
-/

namespace PageLint

/-- The table of entities in a file. -/
def DataTables.entityTable? (d : DataTables) (file : String) : Option EntityTable :=
  d.entityTables.find? (·.file == file)

/-- The number in a cell, with blanks around it. -/
def cellNumber? (cell : String) : Option Binary64 := Binary64.ofText? (Text.trim cell.toList)

/-- What is said about a value beyond its bound. -/
def RangeCheck.notice (r : RangeCheck) (period entity : String) (value : Binary64) : Notice :=
  ⟨r.severity, r.rule, period ++ " / " ++ entity ++ ": " ++ r.label ++ " = " ++
    value.shortest.str ++ r.unit ++
    "; add it to known_issues if expected, or fix the source CSV"⟩

namespace DataCheck

variable (known : KnownIssues) (d : DataTables) (set : DataSet)

/-! ### Single values -/

/-- What there is to say about a row: its value is not within the bound and no known issue covers
it. A value that is no number is not within any bound; a cell without a value is passed over. -/
def rowNotice? (r : RangeCheck) (spec : EntityTable) (t : Table) (row : Row) : Option Notice := do
  let value ← cellNumber? (row.cell (t.column? r.column))
  if value.le r.max then none
  let period := row.cell (spec.periodColumn.bind t.column?)
  let entity := row.cell (t.column? spec.entityColumn)
  if known.covers r.file period entity r.column then none
  return r.notice period entity value

/-- The findings about one bound, row by row. -/
def rangeFindings (r : RangeCheck) : List Finding :=
  match set.table? r.file, d.entityTable? r.file with
  | some t, some spec => (t.rows.filterMap (rowNotice? known r spec t)).map (set.report r.file)
  | _, _ => []

/-- The findings about bounds of single values. -/
def ranges : List Finding := d.ranges.flatMap (rangeFindings known d set)

/-- The bounds of files that are no tables of entities. -/
def misplacedRanges : List RangeCheck :=
  d.ranges.filter fun r => (set.table? r.file).isSome && (d.entityTable? r.file).isNone

/-! ### Sums -/

/-- The column of the file's table with the period. -/
def periodColumn? (a : AggregateCheck) (t : Table) : Option Nat :=
  ((d.entityTable? a.file).bind (·.periodColumn)).bind t.column?

/-- What there is to say about the rows of a period: the sum of the numbers in a column is not as
large as it should be. -/
def sumNotice? (a : AggregateCheck) (t : Table) (rows : List Row) : Option Notice :=
  let total := Binary64.sum (rows.filterMap fun row => cellNumber? (row.cell (t.column? a.column)))
  if rows.isEmpty || a.minTotal.le total ||
      known.covers a.file a.period KnownIssue.wildcard a.column then none
  else
    some ⟨a.severity, a.rule, a.period ++ " " ++ a.column ++ " total = " ++ total.grouped.str ++
      "; suspiciously low (expected " ++ a.expected ++
      "). Add it to known_issues if this has been addressed."⟩

/-- The finding about one sum. -/
def aggregateFindings (a : AggregateCheck) : List Finding :=
  match set.table? a.file with
  | none => []
  | some t =>
    match periodColumn? d a t with
    | none => []
    | some column =>
      let rows := t.rows.filter fun row => row.cell (some column) == a.period
      (sumNotice? known a t rows).toList.map (set.report a.file)

/-- The findings about sums. -/
def aggregates : List Finding := d.aggregates.flatMap (aggregateFindings known d set)

/-- The sums over files without a column for the period. -/
def misplacedAggregates : List AggregateCheck :=
  d.aggregates.filter fun a => (set.table? a.file).any fun t => (periodColumn? d a t).isNone

end DataCheck

end PageLint
