import PageLint.DataCheck.DataSet

/-!
# Layout of the data directory

Tables of entities and the table of their places must be there when they are required, and have
every column that a check reads.

* `DataCheck.expectedColumns`: the columns that checks read from a table of entities.
* `DataCheck.layout`: the findings.
-/

namespace PageLint.DataCheck

variable (d : DataTables) (set : DataSet)

/-- The columns that checks read from a table of entities, ascending. -/
def expectedColumns (t : EntityTable) : List String :=
  Ascending.ofList (t.entityColumn :: t.periodColumn.toList ++
    (d.ranges.filter (·.file == t.file)).map (·.column) ++
    (d.aggregates.filter (·.file == t.file)).map (·.column))

/-- The columns that checks read from the table of places, ascending. -/
def locationColumns (l : LocationTable) : List String :=
  Ascending.ofList (l.entityColumn :: l.coordinateColumns)

/-- The finding about a table that lacks a column, or is not there although it is required. -/
def layoutOf (file : String) (required : Bool) (columns : List String) : List Finding :=
  match set.table? file with
  | none =>
    if required && set.isMissing file then
      [set.report file (.error "DATA_MISSING_FILE" (file ++ " not found"))]
    else []
  | some t =>
    match columns.filter fun c => (t.column? c).isNone with
    | [] => []
    | missing =>
      [set.report file (.error "DATA_COLUMNS"
        (file ++ " missing columns: " ++ String.intercalate ", " missing))]

/-- The findings about the layout: tables of entities in order, then the table of places. -/
def layout : List Finding :=
  d.entityTables.flatMap (fun t => layoutOf set t.file t.required (expectedColumns d t)) ++
  d.locations.toList.flatMap fun l => layoutOf set l.file l.required (locationColumns l)

end PageLint.DataCheck
