import PageLint.DataCheck.DataSet
import PageLint.Month

/-!
# Periods

The cells of a period column are months.

* `DataCheck.periods`: the findings about cells that are not.
-/

namespace PageLint.DataCheck

/-- What there is to say about a period: it is not empty and no month. -/
def periodNotice? (cell : String) : Option Notice :=
  let period := Text.trim cell.toList
  if period.isEmpty || (Month.ofText? period).isSome then none
  else
    some (.error "DATA_DATE_FMT" ("Non-standard date value '" ++ period.str ++
      "'; expected 'Mon YYYY' format (e.g. 'Jan 2023')"))

/-- The findings about the periods of a table of entities, row by row. -/
def periodsOf (set : DataSet) (spec : EntityTable) : List Finding :=
  match set.table? spec.file, spec.periodColumn with
  | some t, some column => ((t.cells column).filterMap periodNotice?).map (set.report spec.file)
  | _, _ => []

/-- The findings about periods. -/
def periods (d : DataTables) (set : DataSet) : List Finding := d.entityTables.flatMap (periodsOf set)

end PageLint.DataCheck
