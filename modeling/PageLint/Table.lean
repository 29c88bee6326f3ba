import PageLint.Csv
import PageLint.Ascending
import PageLint.Text.CharClass

/-!
# Tables

A table is a file of records whose first record names the columns.

* `Table.ofBytes?`: the table of a file.
* `Table.column?`, `Table.cell`, `Table.distinct`: the cells of a column.

## Main results

* `Table.column?_isSome_iff`: a column is found exactly when the header names it.
-/

namespace PageLint

/-- The cells of one record. -/
abbrev Row := List String

/-- The cell in a column; an absent column and an absent cell read as the empty text. -/
def Row.cell (row : Row) (column : Option Nat) : String := (column.bind (row[·]?)).getD ""

/-- A table of texts. -/
structure Table where
  /-- The names of the columns. -/
  header : List String
  /-- The rows in order. -/
  rows : List Row
  deriving DecidableEq, Repr

namespace Table

/-- The table in a file. Blanks around the names of columns are dropped; cells are kept as they
are. -/
def ofBytes? (t : Bytes) : Except Csv.Error Table := do
  match ← Csv.read t with
  | [] => return ⟨[], []⟩
  | header :: rows => return ⟨header.map fun name => name.trim.str, rows.map (·.map Text.str)⟩

variable (table : Table)

/-- The place of the first column with this name. -/
def column? (name : String) : Option Nat := table.header.findIdx? (· == name)

/-- The cells of a column, row by row. -/
def cells (name : String) : List String := table.rows.map (Row.cell · (table.column? name))

/-- The different cells of a column, ascending. -/
def distinct (name : String) : List String := Ascending.ofList (table.cells name)

/-- A column has a place exactly if the header names it. -/
theorem column?_isSome_iff {table : Table} {name : String} :
    (table.column? name).isSome = true ↔ name ∈ table.header := by
  simp [column?, List.findIdx?_isSome, List.any_eq_true]

end Table

end PageLint
