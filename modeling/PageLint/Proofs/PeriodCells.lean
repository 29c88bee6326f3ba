import PageLint.DataCheck.Periods
import PageLint.Proofs.Ordering
import PageLint.Proofs.WrittenMonths

/-!
# Cells that are no months

The check of periods reads the cells of a column as months. What it reports is stated here with the
form of written months alone (`Month.IsWritten`), for all cells of all tables: rows may be too short
to have a cell, and tables may lack the column.

## Main results

* `DataCheck.periodNotice?_eq`: what there is to say about a cell.
* `DataCheck.periods_exact`: **the findings about periods**, one for each row whose period is no month.
-/

namespace PageLint

/-- The periods in a table of entities, row by row. A table that is not there has none, and neither has
one without a column of periods. -/
def DataSet.periodCells (set : DataSet) (spec : EntityTable) : List String :=
  match set.table? spec.file, spec.periodColumn with
  | some t, some column => t.rows.map (Row.cell · (t.column? column))
  | _, _ => []

namespace DataCheck

/-- Is the period no month? It is not blank, and no month is written as what is between its blanks. -/
def IsMisdated (cell : String) : Prop :=
  Text.trim cell.toList ≠ [] ∧ ¬∃ m : Month, m.IsWritten (Text.trim cell.toList)

instance : DecidablePred IsMisdated := fun cell =>
  inferInstanceAs (Decidable (Text.trim cell.toList ≠ [] ∧ ¬∃ m : Month, m.IsWritten _))

/-- The error about a period that is no month. -/
def misdated (cell : String) : Notice :=
  .error "DATA_DATE_FMT" ("Non-standard date value '" ++ (Text.trim cell.toList).str ++
    "'; expected 'Mon YYYY' format (e.g. 'Jan 2023')")

/-- What there is to say about a period. -/
theorem periodNotice?_eq (cell : String) :
    periodNotice? cell = if IsMisdated cell then some (misdated cell) else none := by
  rw [periodNotice?]
  simp only [IsMisdated, ← Month.isSome_ofText?_iff, Bool.or_eq_true, List.isEmpty_iff]
  by_cases hblank : Text.trim cell.toList = []
  · rw [if_pos (Or.inl hblank), if_neg (fun h => h.1 hblank)]
  · by_cases hmonth : (Month.ofText? (Text.trim cell.toList)).isSome = true
    · rw [if_pos (Or.inr hmonth), if_neg (fun h => h.2 hmonth)]
    · rw [if_neg (not_or.mpr ⟨hblank, hmonth⟩), if_pos ⟨hblank, hmonth⟩]
      rfl

/-- The findings about the periods of a table are those about its cells that are no months. -/
theorem periodsOf_eq (set : DataSet) (spec : EntityTable) : periodsOf set spec =
    ((set.periodCells spec).filter IsMisdated).map fun cell => set.report spec.file (misdated cell) := by
  rw [periodsOf, DataSet.periodCells]
  cases set.table? spec.file with
  | none => rfl
  | some t =>
      cases spec.periodColumn with
      | none => rfl
      | some column =>
          simp only [filterMap_eq_map_filter periodNotice?_eq, List.map_map]
          rfl

/-- A cell that is not there is blank. -/
theorem not_isMisdated_of_absent {row : Row} {place : Option Nat}
    (h : ∀ i, place = some i → row.length ≤ i) : ¬IsMisdated (row.cell place) := by
  have hempty : row.cell place = "" := by
    cases place with
    | none => rfl
    | some i =>
        rw [Row.cell, Option.bind_some, List.getElem?_eq_none (h i rfl)]
        rfl
  rw [hempty]
  exact fun hmis => hmis.1 rfl

/-- **The findings about periods.** A text is read as a month, and then as the first day of that month,
exactly if it has two words, the three letters of the month's name and the four digits of its year. The
check goes through the tables of entities in their order, and through the rows of each that is there
and has a column of periods, and gives one error for each period that is neither blank nor such a text.
It gives no others, so a row that has no cell in the column is never reported. -/
theorem periods_exact (d : DataTables) (set : DataSet) :
    (∀ (t : Text) (day : Day), (Month.ofText? t).map Month.first = some day ↔
      ∃ m : Month, m.IsWritten t ∧ day.month = m ∧ day.number = 1) ∧
    periods d set = d.entityTables.flatMap (fun spec =>
      ((set.periodCells spec).filter IsMisdated).map fun cell =>
        set.report spec.file (misdated cell)) ∧
    ∀ (row : Row) (place : Option Nat), (∀ i, place = some i → row.length ≤ i) →
      ¬IsMisdated (row.cell place) := by
  refine ⟨?_, ?_, fun _ _ => not_isMisdated_of_absent⟩
  · intro t day
    rw [Option.map_eq_some_iff]
    simp only [Month.ofText?_eq_some_iff]
    constructor
    · rintro ⟨m, hm, rfl⟩
      exact ⟨m, hm, rfl, rfl⟩
    · rintro ⟨m, hm, rfl, hnumber⟩
      refine ⟨day.month, hm, Day.eq_of_ordinal_eq rfl ?_⟩
      rw [Month.ordinal_first, Day.ordinal, hnumber]
  · exact List.flatMap_congr fun spec _ => periodsOf_eq set spec

end DataCheck

end PageLint
