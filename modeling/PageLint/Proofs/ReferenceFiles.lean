import Mathlib.Data.List.Forall2
import PageLint.DataCheck.References
import PageLint.Proofs.EntityPlaces

/-!
# Reference files that conform

A reference file is checked for its columns, for values and for the number of its rows. What it is
checked for is stated here in terms of its rows (`Table.Reads`): a row has the cell at the place of the
first column with the name, and reads as the empty text where it is too short or no column has the
name. So the empty text occurs in each column that is not there, as soon as there is a row.

## Main results

* `Table.reads_iff`: what rows read.
* `DataCheck.columnsSaid`, `DataCheck.valuesSaid`, `DataCheck.rowsSaid`: what is said about columns,
  values and rows.
* `DataCheck.reference_exact`: **a reference file is passed over in silence exactly if it conforms**,
  and what is said about one that does not.
-/

namespace PageLint

/-! ### What rows read -/

/-- What does the row read in a column? -/
inductive Table.Reads (t : Table) (row : Row) (column : String) : String → Prop
  /-- The cell at the place of the first column with the name. -/
  | cell {before after : List String} {value : String}
      (hheader : t.header = before ++ column :: after) (hfirst : column ∉ before)
      (hcell : row[before.length]? = some value) : Reads t row column value
  /-- The row ends before that place. -/
  | short {before after : List String} (hheader : t.header = before ++ column :: after)
      (hfirst : column ∉ before) (hshort : row.length ≤ before.length) : Reads t row column ""
  /-- No column has the name. -/
  | absent (habsent : column ∉ t.header) : Reads t row column ""

namespace Table

variable {t : Table} {row : Row} {column value : String}

/-- A column is found at the place of the first one with its name. -/
theorem column?_eq_length {before after : List String} (hheader : t.header = before ++ column :: after)
    (hfirst : column ∉ before) : t.column? column = some before.length := by
  have hbefore : before.findIdx? (· == column) = none := by
    refine List.findIdx?_eq_none_iff.mpr fun name hname => ?_
    exact beq_eq_false_iff_ne.mpr fun heq => hfirst (heq ▸ hname)
  rw [column?, hheader, List.findIdx?_append, hbefore, List.findIdx?_cons, beq_self_eq_true, if_pos rfl]
  simp

/-- A column that no name stands for is not found. -/
theorem column?_eq_none (habsent : column ∉ t.header) : t.column? column = none := by
  rw [← Option.not_isSome_iff_eq_none, column?_isSome_iff]
  exact habsent

/-- **What rows read.** -/
theorem reads_iff : t.Reads row column value ↔ row.cell (t.column? column) = value := by
  constructor
  · rintro (⟨hheader, hfirst, hcell⟩ | ⟨hheader, hfirst, hshort⟩ | habsent)
    · rw [column?_eq_length hheader hfirst, Row.cell, Option.bind_some, hcell, Option.getD_some]
    · rw [column?_eq_length hheader hfirst, Row.cell, Option.bind_some, List.getElem?_eq_none hshort,
        Option.getD_none]
    · rw [column?_eq_none habsent, Row.cell, Option.bind_none, Option.getD_none]
  · rintro rfl
    by_cases hmem : column ∈ t.header
    · obtain ⟨before, after, hheader, hfirst⟩ := List.eq_append_cons_of_mem hmem
      rw [column?_eq_length hheader hfirst, Row.cell, Option.bind_some]
      cases hcell : row[before.length]? with
      | some value => exact .cell hheader hfirst hcell
      | none => exact .short hheader hfirst (List.getElem?_eq_none_iff.mp hcell)
    · rw [column?_eq_none hmem]
      exact .absent hmem

/-- Does a row have the value in the column? -/
def HasValue (t : Table) (column value : String) : Prop := ∃ row ∈ t.rows, t.Reads row column value

/-- The values of a column are those that its rows have. -/
theorem mem_distinct_iff : value ∈ t.distinct column ↔ t.HasValue column value := by
  rw [distinct, Ascending.mem_ofList_iff, mem_cells_iff, HasValue]
  simp only [reads_iff]

instance : Decidable (t.HasValue column value) := decidable_of_iff _ mem_distinct_iff

end Table

/-! ### What conforms -/

/-- Is it a number of rows that is asked for? -/
def RowCount.Holds (c : RowCount) (n : Nat) : Prop :=
  if c.exact = true then n = c.expected else n ≤ c.expected

/-- The check of the number of rows accepts what is asked for. -/
theorem RowCount.accepts_iff {c : RowCount} {n : Nat} : c.accepts n = true ↔ c.Holds n := by
  rw [accepts, Holds]
  split
  · exact beq_iff_eq
  · exact decide_eq_true_iff

/-- The texts in order; one that is there twice stays twice. -/
structure SortedAs (texts sorted : List String) : Prop where
  /-- No text is added or lost. -/
  perm : sorted.Perm texts
  /-- They ascend. -/
  ascends : sorted.Pairwise (· ≤ ·)

/-- The expected values that the table does not have, in the order in which they are listed. -/
def ValueExpectation.lacked (e : ValueExpectation) (t : Table) : List String :=
  e.values.filter fun v => ¬t.HasValue e.column v

/-- A table lacks no value exactly if it has all that are expected. -/
theorem ValueExpectation.lacked_eq_nil_iff {e : ValueExpectation} {t : Table} :
    e.lacked t = [] ↔ ∀ v ∈ e.values, t.HasValue e.column v := by
  rw [lacked, List.filter_eq_nil_iff]
  exact forall₂_congr fun v _ => by rw [decide_eq_true_iff, not_not]

namespace ReferenceFile

variable (r : ReferenceFile) (t : Table)

/-- Does the table have what is asked of it? -/
structure Conforms : Prop where
  /-- The columns. -/
  columns : ∀ c ∈ r.requiredColumns, c ∈ t.header
  /-- The values. -/
  values : ∀ e ∈ r.expect, ∀ v ∈ e.values, t.HasValue e.column v
  /-- The number of rows. -/
  rows : ∀ c, r.rows = some c → c.Holds t.rows.length

/-- What is said about the columns. -/
inductive ColumnsSaid : List Notice → Prop
  /-- They are all there. -/
  | found (hfound : ∀ c ∈ r.requiredColumns, c ∈ t.header) : ColumnsSaid []
  /-- One error lists those that are not. -/
  | lacking {missing : List String} (hmissing : missing ≠ [])
      (hsorted : SortedAs (r.requiredColumns.filter (· ∉ t.header)) missing) :
      ColumnsSaid
        [.error r.rule (r.file ++ " missing columns: " ++ String.intercalate ", " missing)]

/-- What is said about the values that are expected in a column. -/
inductive ValuesSaid (e : ValueExpectation) : List Notice → Prop
  /-- They all occur. -/
  | found (hfound : ∀ v ∈ e.values, t.HasValue e.column v) : ValuesSaid e []
  /-- Each value that does not occur is reported, in the order in which they are listed. -/
  | each (hmode : e.mode = .each) (hmissing : e.lacked t ≠ []) :
      ValuesSaid e ((e.lacked t).map fun v => ⟨e.severity, r.rule,
        e.message.getD (r.file ++ " missing " ++ e.column ++ " '" ++ v ++ "' rows")⟩)
  /-- They are reported together, and listed in order. -/
  | all {missing : List String} (hmode : e.mode = .all) (hmissing : missing ≠ [])
      (hsorted : SortedAs (e.lacked t) missing) :
      ValuesSaid e [⟨e.severity, r.rule, e.message.getD
        (r.file ++ " missing " ++ e.column ++ " values: " ++ String.intercalate ", " missing)⟩]

/-- What is said about the number of rows. -/
inductive RowsSaid : List Notice → Prop
  /-- It is accepted, or not asked for. -/
  | accepted (haccepted : ∀ c, r.rows = some c → c.Holds t.rows.length) : RowsSaid []
  /-- It is another than the one that is asked for. -/
  | off {c : RowCount} (hrows : r.rows = some c) (hoff : ¬c.Holds t.rows.length) :
      RowsSaid [.warn r.rule (r.file ++ " has " ++ toString t.rows.length ++ " rows; expected " ++
        toString c.expected ++ (c.note.map fun s => " (" ++ s ++ ")").getD "")]

variable {r t}

/-- Columns are passed over in silence exactly if they are all there. -/
theorem ColumnsSaid.eq_nil_iff {said : List Notice} (h : r.ColumnsSaid t said) :
    said = [] ↔ ∀ c ∈ r.requiredColumns, c ∈ t.header := by
  cases h with
  | found hfound => exact iff_of_true rfl hfound
  | lacking hmissing hsorted =>
      refine iff_of_false (List.cons_ne_nil _ _) fun hfound => hmissing ?_
      refine List.perm_nil.mp (hsorted.perm.trans (List.Perm.of_eq ?_))
      exact List.filter_eq_nil_iff.mpr fun c hc => by simpa using hfound c hc

/-- Values are passed over in silence exactly if they all occur. -/
theorem ValuesSaid.eq_nil_iff {e : ValueExpectation} {said : List Notice}
    (h : r.ValuesSaid t e said) : said = [] ↔ ∀ v ∈ e.values, t.HasValue e.column v := by
  rw [← ValueExpectation.lacked_eq_nil_iff]
  cases h with
  | found hfound => exact iff_of_true rfl (ValueExpectation.lacked_eq_nil_iff.mpr hfound)
  | each hmode hmissing => exact List.map_eq_nil_iff
  | all hmode hmissing hsorted =>
      refine iff_of_false (List.cons_ne_nil _ _) fun hnone => hmissing ?_
      rw [hnone] at hsorted
      exact List.perm_nil.mp hsorted.perm

/-- The number of rows is passed over in silence exactly if it is accepted. -/
theorem RowsSaid.eq_nil_iff {said : List Notice} (h : r.RowsSaid t said) :
    said = [] ↔ ∀ c, r.rows = some c → c.Holds t.rows.length := by
  cases h with
  | accepted haccepted => exact iff_of_true rfl haccepted
  | off hrows hoff => exact iff_of_false (List.cons_ne_nil _ _) fun h => hoff (h _ hrows)

end ReferenceFile

/-! ### What is said -/

namespace DataCheck

variable {set : DataSet} {r : ReferenceFile} {t : Table}

/-- Texts are put in order. -/
theorem sortedAs_sortedTexts (texts : List String) : SortedAs texts (sortedTexts texts) := by
  have hle (a b : String) : (!decide (b < a)) = decide (a ≤ b) := by
    rw [← decide_not, decide_eq_decide, String.not_lt]
  have heq : sortedTexts texts = texts.mergeSort fun a b => a ≤ b := by
    rw [sortedTexts]
    simp only [hle]
  rw [heq]
  exact ⟨List.mergeSort_perm _ _, KeyOrder.pairwise_mergeSort id texts⟩

/-- Putting texts in order leaves some if there are any. -/
theorem sortedTexts_ne_nil {texts : List String} (h : texts ≠ []) : sortedTexts texts ≠ [] := by
  rw [← List.length_pos_iff_ne_nil, (sortedAs_sortedTexts texts).perm.length_eq]
  exact List.length_pos_iff_ne_nil.mpr h

/-- **What is said about columns.** -/
theorem columnsSaid : r.ColumnsSaid t (columnNotices r t) := by
  have hfilter : (r.requiredColumns.filter fun c => (t.column? c).isNone) =
      r.requiredColumns.filter (· ∉ t.header) := by
    refine List.filter_congr fun c _ => ?_
    rw [Bool.eq_iff_iff, decide_eq_true_iff, ← Table.column?_isSome_iff, Option.isNone_iff_eq_none,
      Option.not_isSome_iff_eq_none]
  rw [columnNotices, hfilter]
  split
  · next hnone =>
    refine .found fun c hc => ?_
    simpa using List.filter_eq_nil_iff.mp hnone c hc
  · next hsome => exact .lacking (sortedTexts_ne_nil hsome) (sortedAs_sortedTexts _)

/-- **What is said about values.** -/
theorem valuesSaid (e : ValueExpectation) : r.ValuesSaid t e (valueNotices r t e) := by
  have hmissing : missingValues e t = e.lacked t := by
    refine List.filter_congr fun v _ => ?_
    rw [Bool.eq_iff_iff, decide_eq_true_iff, ← Table.mem_distinct_iff]
    simp
  rw [valueNotices, hmissing]
  by_cases hnone : e.lacked t = []
  · have hfound := ValueExpectation.lacked_eq_nil_iff.mp hnone
    rw [hnone]
    cases e.mode with
    | each => exact .found hfound
    | all => exact .found hfound
  · cases hmode : e.mode with
    | each => exact .each hmode hnone
    | all =>
        simp only [List.isEmpty_iff, if_neg hnone]
        exact .all hmode (sortedTexts_ne_nil hnone) (sortedAs_sortedTexts _)

/-- **What is said about the number of rows.** -/
theorem rowsSaid : r.RowsSaid t (r.rows.toList.flatMap (rowNotices r t)) := by
  cases hrows : r.rows with
  | none => exact .accepted fun c hc => by rw [hrows] at hc; cases hc
  | some c =>
      rw [Option.toList_some, List.flatMap_singleton, rowNotices]
      by_cases hholds : c.Holds t.rows.length
      · rw [if_pos (RowCount.accepts_iff.mpr hholds)]
        exact .accepted fun _ hc => Option.some.inj (hrows.symm.trans hc) ▸ hholds
      · rw [if_neg (mt RowCount.accepts_iff.mp hholds)]
        exact .off hrows hholds

/-- A table is passed over in silence exactly if it conforms. -/
theorem tableNotices_eq_nil_iff : tableNotices r t = [] ↔ r.Conforms t := by
  rw [tableNotices, List.append_eq_nil_iff, List.append_eq_nil_iff, List.flatMap_eq_nil_iff,
    columnsSaid.eq_nil_iff, rowsSaid.eq_nil_iff]
  simp only [(valuesSaid _).eq_nil_iff]
  constructor
  · rintro ⟨⟨hcolumns, hvalues⟩, hrows⟩
    exact ⟨hcolumns, hvalues, hrows⟩
  · rintro ⟨hcolumns, hvalues, hrows⟩
    exact ⟨⟨hcolumns, hvalues⟩, hrows⟩

/-- **Reference files that conform.** A reference file that is loaded as a table is passed over in
silence exactly if it has the columns, the values and the number of rows that are asked for. What is
said about one is, in this order, what there is to say about its columns, about the values that each
expectation lists, in the order of the expectations, and about the number of its rows. -/
theorem reference_exact (ht : set.table? r.file = some t) :
    (reference set r = [] ↔ r.Conforms t) ∧
    ∃ columns values rows,
      reference set r = (columns ++ List.flatten values ++ rows).map (set.report r.file) ∧
      r.ColumnsSaid t columns ∧ List.Forall₂ (r.ValuesSaid t) r.expect values ∧
      r.RowsSaid t rows := by
  have hreference : reference set r = (tableNotices r t).map (set.report r.file) := by
    rw [reference, ht]
  refine ⟨by rw [hreference, List.map_eq_nil_iff, tableNotices_eq_nil_iff], ?_⟩
  refine ⟨columnNotices r t, r.expect.map (valueNotices r t), r.rows.toList.flatMap (rowNotices r t),
    ?_, columnsSaid, ?_, rowsSaid⟩
  · rw [hreference, tableNotices, List.flatMap_def]
  · exact List.forall₂_map_right_iff.mpr (List.forall₂_same.mpr fun e _ => valuesSaid e)

/-- A table with a short row. The empty text occurs in the column in which the row is short and in one
that is not there, so the table conforms if it is asked for. Other values that are not there are
reported, a value that is listed twice is reported twice. -/
theorem reference_exact_ragged :
    let t : Table := ⟨["Line", "Fare"], [["Purple", "10"], ["Aqua"]]⟩
    let set : DataSet := ⟨⟨[]⟩, ⟨[]⟩, [("fares.csv", .table t)]⟩
    let blanks : ReferenceFile := ⟨"FARES", "fares.csv", true, none, ["Line"],
      [⟨"Fare", ["", "10"], .each, .warn, none⟩, ⟨"Zone", [""], .all, .error, none⟩],
      some ⟨2, true, none⟩⟩
    let more : ReferenceFile := ⟨"FARES", "fares.csv", true, none, ["Zone", "Line", "Stage"],
      [⟨"Line", ["Red", "Aqua", "Blue", "Red"], .each, .warn, none⟩,
        ⟨"Fare", ["30", "10", "20"], .all, .error, none⟩], some ⟨1, false, some "one a line"⟩⟩
    set.table? "fares.csv" = some t ∧ blanks.Conforms t ∧ ¬more.Conforms t ∧
      (reference set more).map (·.severity) = [.error, .warn, .warn, .warn, .error, .warn] ∧
      ((reference set more).filter (·.severity == .warn)).map (·.message) =
        ["fares.csv missing Line 'Red' rows", "fares.csv missing Line 'Blue' rows",
          "fares.csv missing Line 'Red' rows", "fares.csv has 2 rows; expected 1 (one a line)"] := by
  intro t set blanks more
  have ht : set.table? "fares.csv" = some t := by decide +kernel
  have hblanks : reference set blanks = [] := by decide +kernel
  have hmore : reference set more ≠ [] := by decide +kernel
  refine ⟨ht, (reference_exact ht).1.mp hblanks, fun h => hmore ((reference_exact ht).1.mpr h), ?_, ?_⟩
  · decide +kernel
  · decide +kernel

end DataCheck

end PageLint
