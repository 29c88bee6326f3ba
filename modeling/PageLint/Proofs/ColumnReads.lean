import Mathlib.Data.List.Basic
import PageLint.Proofs.UnreadableFiles

/-!
# Columns that checks read

An absent column reads as blanks, so a check that looks up a column which is not there would say
nothing instead of failing. The columns that the checks of entities, bounds, sums and periods look up
are listed here (`DataCheck.columnReads`). The list is complete: what the checks find is determined by
the rows of the tables and the places of the listed columns (`DataSet.AgreesOn`). And the check of the
layout asks for each of them, so if it misses no column, every column that is looked up is there.

## Main results

* `DataCheck.entities_eq`, `DataCheck.ranges_eq`, `DataCheck.aggregates_eq`, `DataCheck.periods_eq`:
  the columns that each check looks up determine what it finds.
* `DataCheck.expected_of_mem_columnReads`: every column that is looked up is expected.
* `DataCheck.columns_found_of_layout`: **no check reads a column that is not there** if the layout
  lacks none.
-/

namespace PageLint

/-- A column that is looked up in a data file. -/
structure ColumnRead where
  /-- The name of the file. -/
  file : String
  /-- The name of the column. -/
  column : String
  deriving DecidableEq, Repr

namespace DataCheck

variable (d : DataTables)

/-- The columns that the check of entities looks up: those with the entities of a table, and of the
table of places those with the coordinates, too. -/
def entityReads : List ColumnRead :=
  d.entityTables.map (fun t => ⟨t.file, t.entityColumn⟩) ++
    d.locations.toList.flatMap fun l => (l.entityColumn :: l.coordinateColumns).map (⟨l.file, ·⟩)

/-- The columns that the check of single values looks up: those of the first table of entities that the
file is, and that of the values. -/
def rangeReads : List ColumnRead :=
  d.ranges.flatMap fun r => (d.entityTable? r.file).toList.flatMap fun spec =>
    (spec.entityColumn :: (spec.periodColumn.toList ++ [r.column])).map (⟨r.file, ·⟩)

/-- The columns that the check of sums looks up. Without a column of periods there are none. -/
def aggregateReads : List ColumnRead :=
  d.aggregates.flatMap fun a => ((d.entityTable? a.file).bind (·.periodColumn)).toList.flatMap
    fun period => [⟨a.file, period⟩, ⟨a.file, a.column⟩]

/-- The columns that the check of periods looks up. -/
def periodReads : List ColumnRead :=
  d.entityTables.flatMap fun t => t.periodColumn.toList.map (⟨t.file, ·⟩)

/-- The columns that are looked up in tables of entities and of their places. -/
def columnReads : List ColumnRead :=
  entityReads d ++ rangeReads d ++ aggregateReads d ++ periodReads d

end DataCheck

/-- A name in the header is found at a place where it is. -/
theorem Table.exists_column? {t : Table} {c : String} (h : c ∈ t.header) :
    ∃ i, t.column? c = some i ∧ t.header[i]? = some c := by
  obtain ⟨i, hi⟩ := Option.isSome_iff_exists.mp (column?_isSome_iff.mpr h)
  obtain ⟨hlength, hname, -⟩ := List.findIdx?_eq_some_iff_getElem.mp hi
  exact ⟨i, hi, List.getElem?_eq_some_iff.mpr ⟨hlength, by simpa using hname⟩⟩

/-! ### Tables that agree -/

/-- Do the tables have the same rows, and columns of these names at the same places, if at all? -/
structure Table.AgreesOn (t t' : Table) (columns : String → Prop) : Prop where
  /-- The rows are the same. -/
  rows_eq : t'.rows = t.rows
  /-- The columns are at the same places. -/
  column?_eq : ∀ c, columns c → t'.column? c = t.column? c

/-- Do the data sets differ at most in columns that are not among these reads? -/
structure DataSet.AgreesOn (set set' : DataSet) (reads : List ColumnRead) : Prop where
  /-- Findings show the same paths. -/
  report_eq : set'.report = set.report
  /-- The same tables are there, with the same rows. -/
  rows_eq : ∀ file, (set'.table? file).map (·.rows) = (set.table? file).map (·.rows)
  /-- The columns are at the same places. -/
  column?_eq : ∀ read ∈ reads, (set'.table? read.file).bind (·.column? read.column) =
    (set.table? read.file).bind (·.column? read.column)

namespace Table.AgreesOn

variable {t t' : Table} {columns : String → Prop} {c : String}

/-- Tables that agree on a column have the same cells there. -/
theorem cells_eq (h : t.AgreesOn t' columns) (hc : columns c) : t'.cells c = t.cells c := by
  rw [cells, cells, h.rows_eq, h.column?_eq c hc]

/-- Tables that agree on the column of entities name the same ones. -/
theorem entitiesIn_eq (h : t.AgreesOn t' columns) {spec : EntityTable}
    (hc : columns spec.entityColumn) : spec.entitiesIn t' = spec.entitiesIn t := by
  rw [EntityTable.entitiesIn, EntityTable.entitiesIn, h.cells_eq hc]

/-- Tables that agree on the column of entities have places for the same ones. -/
theorem located_eq (h : t.AgreesOn t' columns) {l : LocationTable}
    (hc : columns l.entityColumn) : l.entitiesIn t' = l.entitiesIn t := by
  rw [LocationTable.entitiesIn, LocationTable.entitiesIn, h.cells_eq hc]

end Table.AgreesOn

namespace DataSet.AgreesOn

variable {set set' : DataSet} {reads : List ColumnRead}

/-- Data sets that agree on some columns agree on fewer. -/
theorem mono {fewer : List ColumnRead} (h : set.AgreesOn set' reads) (hsub : fewer ⊆ reads) :
    set.AgreesOn set' fewer :=
  ⟨h.report_eq, h.rows_eq, fun read hread => h.column?_eq read (hsub hread)⟩

/-- A file is a table in neither data set, or in both, and then the tables agree. -/
theorem tables (h : set.AgreesOn set' reads) (file : String) :
    (set.table? file = none ∧ set'.table? file = none) ∨
      ∃ t t', set.table? file = some t ∧ set'.table? file = some t' ∧
        t.AgreesOn t' (⟨file, ·⟩ ∈ reads) := by
  have hrows := h.rows_eq file
  cases ht : set.table? file with
  | none =>
      rw [ht, Option.map_none, Option.map_eq_none_iff] at hrows
      exact .inl ⟨rfl, hrows⟩
  | some t =>
      rw [ht, Option.map_some, Option.map_eq_some_iff] at hrows
      obtain ⟨t', ht', hrows⟩ := hrows
      refine .inr ⟨t, t', rfl, ht', hrows, fun c hc => ?_⟩
      simpa [ht, ht'] using h.column?_eq ⟨file, c⟩ hc

end DataSet.AgreesOn

/-! ### What the columns determine -/

namespace DataCheck

variable {set set' : DataSet} {known : KnownIssues} {d : DataTables}

/-- The entities of the tables are determined by their columns. -/
theorem loadedEntities_eq (h : set.AgreesOn set' (entityReads d)) :
    loadedEntities set' d = loadedEntities set d := by
  refine List.filterMap_congr fun spec hspec => ?_
  have hread : ⟨spec.file, spec.entityColumn⟩ ∈ entityReads d :=
    List.mem_append_left _ (List.mem_map.mpr ⟨spec, hspec, rfl⟩)
  obtain ⟨hnone, hnone'⟩ | ⟨t, t', ht, ht', hagree⟩ := h.tables spec.file
  · rw [hnone, hnone']
  · rw [ht, ht', Option.map_some, Option.map_some, hagree.entitiesIn_eq hread]

/-- The columns of the table of places are looked up. -/
theorem mem_entityReads_of_locations {l : LocationTable} (hl : d.locations = some l) {c : String}
    (hc : c = l.entityColumn ∨ c ∈ l.coordinateColumns) : ⟨l.file, c⟩ ∈ entityReads d := by
  refine List.mem_append_right _ (List.mem_flatMap.mpr ⟨l, by simp [hl], ?_⟩)
  exact List.mem_map.mpr ⟨c, List.mem_cons.mpr hc, rfl⟩

/-- Missing coordinates are determined by the columns of the table of places. -/
theorem missingCoordinates_eq {l : LocationTable} {t t' : Table} {columns : String → Prop}
    (h : t.AgreesOn t' columns) (hentity : columns l.entityColumn)
    (hcoordinate : ∀ c ∈ l.coordinateColumns, columns c) :
    missingCoordinates set l t' = missingCoordinates set l t := by
  rw [missingCoordinates, missingCoordinates, h.rows_eq, h.column?_eq _ hentity]
  refine List.filterMap_congr fun row _ => ?_
  have hany : (l.coordinateColumns.any fun c => isBlankCell (row.cell (t'.column? c))) =
      l.coordinateColumns.any fun c => isBlankCell (row.cell (t.column? c)) := by
    rw [Bool.eq_iff_iff, List.any_eq_true, List.any_eq_true]
    refine exists_congr fun c => and_congr_right fun hc => ?_
    rw [h.column?_eq c (hcoordinate c hc)]
  rw [hany]

/-- What is found about the table of places is determined by the columns that are looked up. -/
theorem places_eq (h : set.AgreesOn set' (entityReads d)) {l : LocationTable}
    (hl : d.locations = some l) {t t' : Table}
    (hagree : t.AgreesOn t' (⟨l.file, ·⟩ ∈ entityReads d)) :
    places set' d l t' = places set d l t := by
  have hentity : ⟨l.file, l.entityColumn⟩ ∈ entityReads d :=
    mem_entityReads_of_locations hl (.inl rfl)
  have hmissing : missingCoordinates set l t' = missingCoordinates set l t :=
    missingCoordinates_eq hagree hentity fun c hc => mem_entityReads_of_locations hl (.inr hc)
  rw [places, places, loadedEntities_eq h, missingCoordinates_congr h.report_eq, hmissing,
    hagree.located_eq hentity, unlocated_congr h.report_eq, secondaryOnly_congr h.report_eq,
    allowedUnlocated_congr h.report_eq]

/-- **What is found about entities** is determined by the columns that the check looks up. -/
theorem entities_eq {tables : RuleTables} (h : set.AgreesOn set' (entityReads tables.data)) :
    entities set' tables = entities set tables := by
  rw [entities, entities, loadedEntities_eq h, retiredNames_congr h.report_eq]
  cases hl : tables.data.locations with
  | none =>
      have hnone (set : DataSet) : locationTable? set tables.data = none := by
        rw [locationTable?, hl, Option.bind_none]
      rw [hnone set, hnone set']
      rfl
  | some l =>
      have hsome (set : DataSet) : locationTable? set tables.data =
          (set.table? l.file).map (l, ·) := by
        rw [locationTable?, hl, Option.bind_some]
      rw [hsome set, hsome set']
      obtain ⟨hnone, hnone'⟩ | ⟨t, t', ht, ht', hagree⟩ := h.tables l.file
      · rw [hnone, hnone']
        rfl
      · have hlocated : l.entitiesIn t' = l.entitiesIn t :=
          hagree.located_eq (mem_entityReads_of_locations hl (.inl rfl))
        simp only [ht, ht', Option.map_some, Option.toList_some, List.flatMap_singleton, hlocated,
          places_eq h hl hagree]

/-- What there is to say about a row is determined by three columns. -/
theorem rowNotice?_eq {r : RangeCheck} {spec : EntityTable} {t t' : Table}
    {columns : String → Prop} (h : t.AgreesOn t' columns)
    (hcolumns : ∀ c ∈ spec.entityColumn :: (spec.periodColumn.toList ++ [r.column]), columns c) :
    rowNotice? known r spec t' = rowNotice? known r spec t := by
  have hperiod : spec.periodColumn.bind t'.column? = spec.periodColumn.bind t.column? :=
    Option.bind_congr fun c hc => h.column?_eq c (hcolumns c (by simp [hc]))
  funext row
  rw [rowNotice?, rowNotice?, hperiod, h.column?_eq _ (hcolumns r.column (by simp)),
    h.column?_eq _ (hcolumns spec.entityColumn (by simp))]

/-- **What is found about values** is determined by the columns that the check looks up. -/
theorem ranges_eq (h : set.AgreesOn set' (rangeReads d)) :
    ranges known d set' = ranges known d set := by
  refine List.flatMap_congr fun r hr => ?_
  rw [rangeFindings, rangeFindings]
  obtain ⟨hnone, hnone'⟩ | ⟨t, t', ht, ht', hagree⟩ := h.tables r.file
  · rw [hnone, hnone']
  · cases hspec : d.entityTable? r.file with
    | none => rw [ht, ht']
    | some spec =>
        have hread (c : String)
            (hc : c ∈ spec.entityColumn :: (spec.periodColumn.toList ++ [r.column])) :
            ⟨r.file, c⟩ ∈ rangeReads d :=
          List.mem_flatMap.mpr ⟨r, hr, by simpa [hspec] using hc⟩
        simp only [ht, ht', h.report_eq, hagree.rows_eq, rowNotice?_eq hagree hread]

/-- What there is to say about a sum is determined by the column of the numbers. -/
theorem sumNotice?_eq {a : AggregateCheck} {t t' : Table} {columns : String → Prop}
    (h : t.AgreesOn t' columns) (hcolumn : columns a.column) :
    sumNotice? known a t' = sumNotice? known a t := by
  funext rows
  rw [sumNotice?, sumNotice?, h.column?_eq _ hcolumn]

/-- **What is found about sums** is determined by the columns that the check looks up. -/
theorem aggregates_eq (h : set.AgreesOn set' (aggregateReads d)) :
    aggregates known d set' = aggregates known d set := by
  refine List.flatMap_congr fun a ha => ?_
  rw [aggregateFindings, aggregateFindings]
  obtain ⟨hnone, hnone'⟩ | ⟨t, t', ht, ht', hagree⟩ := h.tables a.file
  · rw [hnone, hnone']
  · cases hperiod : (d.entityTable? a.file).bind (·.periodColumn) with
    | none => simp only [ht, ht', periodColumn?, hperiod, Option.bind_none]
    | some period =>
        have hread (c : String) (hc : c = period ∨ c = a.column) :
            ⟨a.file, c⟩ ∈ aggregateReads d :=
          List.mem_flatMap.mpr ⟨a, ha, by simpa [hperiod] using hc⟩
        simp only [ht, ht', periodColumn?, hperiod, Option.bind_some, h.report_eq, hagree.rows_eq,
          hagree.column?_eq _ (hread period (.inl rfl)),
          sumNotice?_eq hagree (hread a.column (.inr rfl))]

/-- **What is found about periods** is determined by the columns that the check looks up. -/
theorem periods_eq (h : set.AgreesOn set' (periodReads d)) : periods d set' = periods d set := by
  refine List.flatMap_congr fun spec hspec => ?_
  rw [periodsOf, periodsOf]
  obtain ⟨hnone, hnone'⟩ | ⟨t, t', ht, ht', hagree⟩ := h.tables spec.file
  · rw [hnone, hnone']
  · cases hperiod : spec.periodColumn with
    | none => rw [ht, ht']
    | some column =>
        have hread : ⟨spec.file, column⟩ ∈ periodReads d :=
          List.mem_flatMap.mpr ⟨spec, hspec, by simp [hperiod]⟩
        simp only [ht, ht', hagree.cells_eq hread, h.report_eq]

/-! ### What the layout asks for -/

/-- The columns asked of a table are those of its entities and periods, and those with bounds or sums for
its file. -/
theorem mem_expectedColumns {t : EntityTable} {c : String} :
    c ∈ expectedColumns d t ↔ c = t.entityColumn ∨ t.periodColumn = some c ∨
      (∃ r ∈ d.ranges, r.file = t.file ∧ r.column = c) ∨
        ∃ a ∈ d.aggregates, a.file = t.file ∧ a.column = c := by
  rw [expectedColumns, Ascending.mem_ofList_iff]
  simp [and_assoc]

/-- The columns asked of a table of places are those of its entities and coordinates. -/
theorem mem_locationColumns {l : LocationTable} {c : String} :
    c ∈ locationColumns l ↔ c = l.entityColumn ∨ c ∈ l.coordinateColumns := by
  rw [locationColumns, Ascending.mem_ofList_iff, List.mem_cons]

/-- The table of entities in a file is one of those that the layout is about. -/
theorem mem_of_entityTable? {file : String} {spec : EntityTable}
    (h : d.entityTable? file = some spec) : spec ∈ d.entityTables ∧ spec.file = file :=
  ⟨List.mem_of_find?_eq_some h, by simpa using List.find?_some h⟩

/-- Every column that is looked up is one that the layout asks for, of a table of entities or of the
table of places. -/
theorem expected_of_mem_columnReads {read : ColumnRead} (h : read ∈ columnReads d) :
    (∃ t ∈ d.entityTables, t.file = read.file ∧ read.column ∈ expectedColumns d t) ∨
      ∃ l ∈ d.locations, l.file = read.file ∧ read.column ∈ locationColumns l := by
  simp only [columnReads, List.mem_append] at h
  obtain ((hentity | hrange) | haggregate) | hperiod := h
  · simp only [entityReads, List.mem_append, List.mem_map, List.mem_flatMap, Option.mem_toList]
      at hentity
    obtain ⟨t, ht, rfl⟩ | ⟨l, hl, c, hc, rfl⟩ := hentity
    · exact .inl ⟨t, ht, rfl, mem_expectedColumns.mpr (.inl rfl)⟩
    · exact .inr ⟨l, hl, rfl, mem_locationColumns.mpr (List.mem_cons.mp hc)⟩
  · simp only [rangeReads, List.mem_flatMap, List.mem_map, Option.mem_toList] at hrange
    obtain ⟨r, hr, spec, hspec, c, hc, rfl⟩ := hrange
    obtain ⟨hmem, hfile⟩ := mem_of_entityTable? hspec
    refine .inl ⟨spec, hmem, hfile, mem_expectedColumns.mpr ?_⟩
    rw [List.mem_cons, List.mem_append, Option.mem_toList, List.mem_singleton] at hc
    obtain rfl | hc | rfl := hc
    · exact .inl rfl
    · exact .inr (.inl hc)
    · exact .inr (.inr (.inl ⟨r, hr, hfile.symm, rfl⟩))
  · simp only [aggregateReads, List.mem_flatMap, Option.mem_toList, Option.bind_eq_some_iff]
      at haggregate
    obtain ⟨a, ha, period, ⟨spec, hspec, hperiod⟩, hread⟩ := haggregate
    obtain ⟨hmem, hfile⟩ := mem_of_entityTable? hspec
    simp only [List.mem_cons, List.not_mem_nil, or_false] at hread
    obtain rfl | rfl := hread
    · exact .inl ⟨spec, hmem, hfile, mem_expectedColumns.mpr (.inr (.inl hperiod))⟩
    · exact .inl ⟨spec, hmem, hfile,
        mem_expectedColumns.mpr (.inr (.inr (.inr ⟨a, ha, hfile.symm, rfl⟩)))⟩
  · simp only [periodReads, List.mem_flatMap, List.mem_map, Option.mem_toList] at hperiod
    obtain ⟨t, ht, c, hc, rfl⟩ := hperiod
    exact .inl ⟨t, ht, rfl, mem_expectedColumns.mpr (.inr (.inl hc))⟩

/-- A table about which it is not said that columns are missing has all that are asked for. -/
theorem mem_header_of_layoutOf {file : String} {required : Bool} {columns : List String} {t : Table}
    {c : String} (ht : set.table? file = some t) (hc : c ∈ columns)
    (h : ∀ f ∈ layoutOf set file required columns, f.rule ≠ "DATA_COLUMNS") : c ∈ t.header := by
  rw [layoutOf, ht] at h
  simp only at h
  split at h
  next hnone =>
    have hfound := List.filter_eq_nil_iff.mp hnone c hc
    rw [Bool.not_eq_true, Option.isNone_eq_false_iff] at hfound
    exact Table.column?_isSome_iff.mp hfound
  next => exact absurd rfl (h _ (List.mem_singleton.mpr rfl))

/-- **No check reads a column that is not there.** If the layout lacks no column, every column that
the checks of entities, values, sums and periods look up in a table is in its header; and they look up
no other columns, as what they find is determined by these. -/
theorem columns_found_of_layout {tables : RuleTables} {set : DataSet}
    (h : ∀ f ∈ layout tables.data set, f.rule ≠ "DATA_COLUMNS") :
    (∀ read ∈ columnReads tables.data, ∀ t, set.table? read.file = some t →
      ∃ i, t.column? read.column = some i ∧ t.header[i]? = some read.column) ∧
    ∀ known set', set.AgreesOn set' (columnReads tables.data) →
      entities set' tables = entities set tables ∧
      ranges known tables.data set' = ranges known tables.data set ∧
      aggregates known tables.data set' = aggregates known tables.data set ∧
      periods tables.data set' = periods tables.data set := by
  refine ⟨fun read hread t ht => ?_, fun known set' hagree => ⟨?_, ?_, ?_, ?_⟩⟩
  · refine Table.exists_column? ?_
    obtain ⟨spec, hspec, hfile, hc⟩ | ⟨l, hl, hfile, hc⟩ := expected_of_mem_columnReads hread
    · exact mem_header_of_layoutOf (hfile ▸ ht) hc fun f hf => h f
        (List.mem_append_left _ (List.mem_flatMap.mpr ⟨spec, hspec, hf⟩))
    · exact mem_header_of_layoutOf (hfile ▸ ht) hc fun f hf => h f
        (List.mem_append_right _ (List.mem_flatMap.mpr ⟨l, Option.mem_toList.mpr hl, hf⟩))
  · exact entities_eq (hagree.mono fun read hread => by simp [columnReads, hread])
  · exact ranges_eq (hagree.mono fun read hread => by simp [columnReads, hread])
  · exact aggregates_eq (hagree.mono fun read hread => by simp [columnReads, hread])
  · exact periods_eq (hagree.mono fun read hread => by simp [columnReads, hread])

open RuleTables.Builtin in
/-- The built-in tables and a file with its columns in another order: the column of the bound is found
at its place, and another column behind the others changes nothing. -/
theorem columns_found_of_layout_reordered :
    let set (more : List String) : DataSet := ⟨⟨[]⟩, ⟨[]⟩, [("extracted.csv", .table
      ⟨[utilizationColumn, earningColumn, "Depot", "Date"] ++ more,
        [["120", "1", "Nigadi", "May 2023"]]⟩)]⟩
    (∀ t, (set []).table? "extracted.csv" = some t →
      ∃ i, t.column? utilizationColumn = some i ∧ t.header[i]? = some utilizationColumn) ∧
    ∀ known, ranges known DataTables.builtin (set ["Note"]) =
      ranges known DataTables.builtin (set []) := by
  intro set
  have hlayout : ∀ f ∈ layout RuleTables.builtin.data (set []), f.rule ≠ "DATA_COLUMNS" := by
    have hall : ((layout RuleTables.builtin.data (set [])).all (·.rule != "DATA_COLUMNS")) = true := by
      decide +kernel
    simpa using hall
  obtain ⟨hfound, hdetermined⟩ := columns_found_of_layout hlayout
  have hagree : (set []).AgreesOn (set ["Note"]) (columnReads RuleTables.builtin.data) := by
    refine ⟨rfl, fun file => ?_, ?_⟩
    · by_cases hfile : "extracted.csv" = file <;> simp [set, DataSet.table?, DataSet.file, hfile]
    · have hall : ((columnReads RuleTables.builtin.data).all fun read =>
          ((set ["Note"]).table? read.file).bind (·.column? read.column) ==
            ((set []).table? read.file).bind (·.column? read.column)) = true := by
        decide +kernel
      simpa only [List.all_eq_true, beq_iff_eq] using hall
  exact ⟨hfound ⟨"extracted.csv", utilizationColumn⟩ (by decide +kernel),
    fun known => (hdetermined known (set ["Note"]) hagree).2.1⟩

end DataCheck

end PageLint
