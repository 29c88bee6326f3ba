import Mathlib.Data.List.Basic
import PageLint.DataCheck.Entities
import PageLint.Proofs.Ordering
import PageLint.RuleTables.Builtin

/-!
# Entities and their places

The checks of entities compare tables with each other. What they compare are sets of entities, each
taken from a column with a filter of its own, so the first part says in terms of rows and cells when an
entity is in such a set (`EntityTable.Names`, `LocationTable.Locates`). The entities of all tables that
play a part are then gone through table by table, in the order of the configuration
(`DataCheck.flatMap_inRole`); a table that is not there has no entities.

Two kinds of findings are taken out of the whole list. The errors about coordinates are those of the
rows that lack one and those of the entities of primary tables that have no row. The warnings about
entities in secondary tables alone need no place, but are only given when the table of places is there.

## Main results

* `DataSet.mem_entitiesOf_iff`, `LocationTable.mem_entitiesIn_iff`: which entities are compared.
* `DataCheck.coordinateErrors_exact`: **the errors about coordinates**, row by row and entity by entity,
  and what holds when there are none.
* `DataCheck.exclusiveWarnings_exact`: **the warnings about secondary tables**, with and without a table
  of places.
-/

namespace PageLint

/-! ### Which entities there are -/

/-- Does a row of the table name the entity? An entity is not blank, and not excluded. -/
def EntityTable.Names (spec : EntityTable) (t : Table) (e : String) : Prop :=
  isBlankCell e = false ∧ e ∉ spec.exclude ∧
    ∃ row ∈ t.rows, row.cell (t.column? spec.entityColumn) = e

/-- Does a row of the table of places have the entity in its column? -/
def LocationTable.Locates (l : LocationTable) (t : Table) (e : String) : Prop :=
  ∃ row ∈ t.rows, row.cell (t.column? l.entityColumn) = e

instance (spec : EntityTable) (t : Table) (e : String) : Decidable (spec.Names t e) :=
  inferInstanceAs (Decidable (_ ∧ _))

instance (l : LocationTable) (t : Table) (e : String) : Decidable (l.Locates t e) :=
  inferInstanceAs (Decidable (∃ row ∈ t.rows, _))

/-- The cells of a column are those of the rows. -/
theorem Table.mem_cells_iff {t : Table} {column cell : String} :
    cell ∈ t.cells column ↔ ∃ row ∈ t.rows, row.cell (t.column? column) = cell :=
  List.mem_map

/-- The entities of a table are those that it names. -/
theorem EntityTable.mem_entitiesIn_iff {spec : EntityTable} {t : Table} {e : String} :
    e ∈ spec.entitiesIn t ↔ spec.Names t e := by
  rw [entitiesIn, Ascending.mem_ofList_iff, List.mem_filter, Table.mem_cells_iff, Names]
  simp only [Bool.and_eq_true, Bool.not_eq_true', List.contains_eq_mem, decide_eq_false_iff_not]
  constructor
  · rintro ⟨hrow, hblank, hexclude⟩
    exact ⟨hblank, hexclude, hrow⟩
  · rintro ⟨hblank, hexclude, hrow⟩
    exact ⟨hrow, hblank, hexclude⟩

/-- The entities with a place are those in the column that are not blank. -/
theorem LocationTable.mem_entitiesIn_iff {l : LocationTable} {t : Table} {e : String} :
    e ∈ l.entitiesIn t ↔ isBlankCell e = false ∧ l.Locates t e := by
  rw [entitiesIn, Ascending.mem_ofList_iff, List.mem_filter, Table.mem_cells_iff, Locates,
    Bool.not_eq_true', and_comm]

namespace DataSet

variable (set : DataSet)

/-- Is the file there as a table, and does it name the entity? -/
def HasEntity (spec : EntityTable) (e : String) : Prop :=
  ∃ t, set.table? spec.file = some t ∧ spec.Names t e

/-- The entities of a table, ascending. A table that is not there has none. -/
def entitiesOf (spec : EntityTable) : List String :=
  ((set.table? spec.file).map spec.entitiesIn).getD []

variable {set}

/-- The entities read under a specification are those that its table has. -/
theorem mem_entitiesOf_iff {spec : EntityTable} {e : String} :
    e ∈ set.entitiesOf spec ↔ set.HasEntity spec e := by
  rw [entitiesOf, HasEntity]
  cases set.table? spec.file with
  | none => simp
  | some t => simp [EntityTable.mem_entitiesIn_iff]

/-- Entities are read in ascending order, each once. -/
theorem pairwise_entitiesOf (spec : EntityTable) : (set.entitiesOf spec).Pairwise (· < ·) := by
  rw [entitiesOf]
  cases set.table? spec.file with
  | none => exact List.Pairwise.nil
  | some t => exact Ascending.pairwise_ofList _

instance (spec : EntityTable) (e : String) : Decidable (set.HasEntity spec e) :=
  decidable_of_iff _ mem_entitiesOf_iff

/-- The name of an entity is not blank. -/
theorem HasEntity.not_isBlankCell {spec : EntityTable} {e : String} (h : set.HasEntity spec e) :
    isBlankCell e = false := by
  obtain ⟨t, -, hblank, -⟩ := h
  exact hblank

end DataSet

namespace DataTables

variable (d : DataTables)

/-- The tables that play a part, in the order of the configuration. -/
def tablesIn (role : TableRole) : List EntityTable := d.entityTables.filter (·.role == role)

/-- Is the entity in a primary table? -/
def HasPrimary (set : DataSet) (e : String) : Prop :=
  ∃ spec ∈ d.tablesIn .primary, set.HasEntity spec e

instance (set : DataSet) (e : String) : Decidable (d.HasPrimary set e) :=
  inferInstanceAs (Decidable (∃ spec ∈ d.tablesIn .primary, _))

end DataTables

namespace DataCheck

variable {set : DataSet} {d : DataTables}

/-- What is found for the tables that play a part and are there is what is found for all tables that
play it, if there is nothing to find about a table without entities. -/
theorem flatMap_inRole {β : Type} {role : TableRole} {found : EntityTable × List String → List β}
    (hnone : ∀ spec, found (spec, []) = []) :
    (inRole role (loadedEntities set d)).flatMap found =
      (d.tablesIn role).flatMap fun spec => found (spec, set.entitiesOf spec) := by
  rw [inRole, loadedEntities, DataTables.tablesIn]
  induction d.entityTables with
  | nil => rfl
  | cons spec specs ih =>
      cases ht : set.table? spec.file with
      | none =>
          have hentities : set.entitiesOf spec = [] := by rw [DataSet.entitiesOf, ht]; rfl
          rw [List.filterMap_cons_none (by rw [ht]; rfl), ih, List.filter_cons]
          split
          · rw [List.flatMap_cons, hentities, hnone, List.nil_append]
          · rfl
      | some t =>
          have hentities : set.entitiesOf spec = spec.entitiesIn t := by
            rw [DataSet.entitiesOf, ht]; rfl
          rw [List.filterMap_cons_some (by rw [ht]; rfl), List.filter_cons, List.filter_cons]
          split
          · rw [List.flatMap_cons, List.flatMap_cons, ih, hentities]
          · exact ih

/-- The entities of the primary tables, ascending. -/
def primaryEntities (set : DataSet) (d : DataTables) : List String :=
  Ascending.ofList ((inRole .primary (loadedEntities set d)).flatMap (·.2))

/-- The primary entities are those that a primary table has. -/
theorem mem_primaryEntities_iff {e : String} : e ∈ primaryEntities set d ↔ d.HasPrimary set e := by
  rw [primaryEntities, Ascending.mem_ofList_iff, flatMap_inRole fun _ => rfl, List.mem_flatMap,
    DataTables.HasPrimary]
  simp only [DataSet.mem_entitiesOf_iff]

end DataCheck

/-! ### What is said -/

/-- Does the row lack a coordinate? A cell that is blank or not there is none. -/
def LocationTable.LacksCoordinate (l : LocationTable) (t : Table) (row : Row) : Prop :=
  ∃ c ∈ l.coordinateColumns, isBlankCell (row.cell (t.column? c)) = true

instance (l : LocationTable) (t : Table) : DecidablePred (l.LacksCoordinate t) :=
  fun _ => inferInstanceAs (Decidable (∃ c ∈ l.coordinateColumns, _))

namespace Notice

variable (l : LocationTable)

/-- What is said about a row of the table of places that lacks a coordinate. -/
def lacksCoordinate (t : Table) (row : Row) : Notice :=
  .error "DATA_COORDS" ("'" ++ row.cell (t.column? l.entityColumn) ++ "' missing " ++
    String.intercalate "/" l.coordinateColumns)

/-- What is said about an entity of a primary table without a place. -/
def withoutPlace (spec : EntityTable) (e : String) : Notice :=
  .error "DATA_COORDS" ("'" ++ e ++ "' in " ++ spec.file ++ " has no entry in " ++ l.file)

/-- What is said about an entity without a place that is allowed to be in no primary table. -/
def allowedWithoutPlace (e : String) : Notice :=
  .warn "DATA_COORDS" ("Allow-listed '" ++ e ++ "' has no entry in " ++ l.file ++
    "; add coordinates even if it only appears in secondary data")

/-- What is said about an entity of a secondary table that is in no primary table. -/
def secondaryOnly (spec : EntityTable) (e : String) : Notice :=
  .warn "DATA_DEPOT_EXCLUSIVE" ("'" ++ e ++ "' appears only in " ++ spec.label ++
    " and is not allow-listed; add coordinates to " ++ l.file ++ " or document the exception")

end Notice

namespace Finding

variable (f : Finding)

/-- Is the finding an error about coordinates? -/
def isCoordinateError : Bool := f.severity == .error && f.rule == "DATA_COORDS"

/-- Does the finding warn that an entity is in a secondary table alone? -/
def isExclusive : Bool := f.rule == "DATA_DEPOT_EXCLUSIVE"

end Finding

namespace DataCheck

variable {set : DataSet} {d : DataTables} {l : LocationTable} {t : Table} {p : Finding → Bool}

/-- A filter keeps findings that are made in one way if it keeps each of them. -/
theorem filter_report_eq_self {α : Type} {file : String} (notice : α → Notice)
    (h : ∀ a, p (set.report file (notice a)) = true) (as : List α) :
    (as.map fun a => set.report file (notice a)).filter p =
      as.map fun a => set.report file (notice a) := by
  refine List.filter_eq_self.mpr fun f hf => ?_
  obtain ⟨a, -, rfl⟩ := List.mem_map.mp hf
  exact h a

/-- A filter drops findings that are made in one way if it drops each of them. -/
theorem filter_report_eq_nil {α : Type} {file : String} (notice : α → Notice)
    (h : ∀ a, p (set.report file (notice a)) = false) (as : List α) :
    (as.map fun a => set.report file (notice a)).filter p = [] := by
  refine List.filter_eq_nil_iff.mpr fun f hf => ?_
  obtain ⟨a, -, rfl⟩ := List.mem_map.mp hf
  exact Bool.not_eq_true _ ▸ h a

/-- The rows that lack a coordinate are reported in their order. -/
theorem missingCoordinates_eq_map :
    missingCoordinates set l t = (t.rows.filter fun row => l.LacksCoordinate t row).map fun row =>
      set.report l.file (.lacksCoordinate l t row) := by
  rw [missingCoordinates, ← List.filterMap_eq_map, List.filterMap_filter]
  refine List.filterMap_congr fun row _ => ?_
  simp only [LocationTable.LacksCoordinate, ← List.any_eq_true, Bool.decide_eq_true]
  rfl

/-- Nothing about retired names is kept by a filter that drops what is said about them. -/
theorem filter_retiredNames
    (hdrops : ∀ file message, p (set.report file (.error "DATA_DEPOT_NAME" message)) = false)
    (names : List (String × String)) (file : String) (es : List String) :
    (retiredNames set names file es).filter p = [] := by
  refine List.filter_eq_nil_iff.mpr fun f hf => ?_
  obtain ⟨entry, -, hentry⟩ := List.mem_filterMap.mp hf
  simp only at hentry
  split at hentry
  · rw [← Option.some.inj hentry, hdrops]
    exact Bool.false_ne_true
  · cases hentry

/-- What is found about entities, but for retired names, is found with the help of the table of
places. -/
theorem filter_entities {tables : RuleTables}
    (hdrops : ∀ file message, p (set.report file (.error "DATA_DEPOT_NAME" message)) = false) :
    (entities set tables).filter p =
      (locationTable? set tables.data).toList.flatMap fun place =>
        (places set tables.data place.1 place.2).filter p := by
  have hnone {α : Type} (as : List α) (file : α → String) (es : α → List String) :
      (as.flatMap fun a => retiredNames set tables.deprecatedNames (file a) (es a)).filter p = [] := by
    rw [List.filter_flatMap]
    exact List.flatMap_eq_nil_iff.mpr fun a _ => filter_retiredNames hdrops _ _ _
  rw [entities, List.filter_append, List.filter_append, hnone, hnone, List.filter_flatMap]
  rfl

/-- With the table of places there, those findings are what it helps to find. -/
theorem filter_entities_of_places {tables : RuleTables} (hl : tables.data.locations = some l)
    (ht : set.table? l.file = some t)
    (hdrops : ∀ file message, p (set.report file (.error "DATA_DEPOT_NAME" message)) = false) :
    (entities set tables).filter p = (places set tables.data l t).filter p := by
  rw [filter_entities hdrops, locationTable?, hl, Option.bind_some, ht]
  exact List.append_nil _

/-- Without a table of places there are no findings but those about retired names. -/
theorem filter_entities_of_no_places {tables : RuleTables}
    (hnone : ∀ l, tables.data.locations = some l → set.table? l.file = none)
    (hdrops : ∀ file message, p (set.report file (.error "DATA_DEPOT_NAME" message)) = false) :
    (entities set tables).filter p = [] := by
  have hlocation : locationTable? set tables.data = none := by
    refine Option.bind_eq_none_iff.mpr fun l hl => ?_
    rw [hnone l hl, Option.map_none]
  rw [filter_entities hdrops, hlocation]
  rfl

/-- A filter drops what is found under a condition if it drops all of it. -/
theorem filter_guarded_eq_nil {fs : List Finding} (condition : Bool) (h : fs.filter p = []) :
    (if condition then [] else fs).filter p = [] := by
  split
  · rfl
  · exact h

/-- A filter drops what is found table by table if it drops what is found for each of them. -/
theorem filter_flatMap_eq_nil {found : EntityTable × List String → List Finding}
    (h : ∀ table, (found table).filter p = []) (tables : List (EntityTable × List String)) :
    (tables.flatMap found).filter p = [] := by
  rw [List.filter_flatMap]
  exact List.flatMap_eq_nil_iff.mpr fun table _ => h table

/-- The entities of primary tables are looked for only if there are any, and if there are places. If
there are none, nothing would be found either. -/
theorem guarded_unlocated_eq {located : List String} (hlocated : located ≠ []) :
    (if (primaryEntities set d).isEmpty || located.isEmpty then []
      else (inRole .primary (loadedEntities set d)).flatMap (unlocated set l located)) =
      (d.tablesIn .primary).flatMap fun spec =>
        unlocated set l located (spec, set.entitiesOf spec) := by
  split
  next hempty =>
    rw [Bool.or_eq_true, List.isEmpty_iff, List.isEmpty_iff] at hempty
    have hprimary := hempty.resolve_right hlocated
    refine (List.flatMap_eq_nil_iff.mpr fun spec hspec => ?_).symm
    have hnone : set.entitiesOf spec = [] := by
      refine List.eq_nil_iff_forall_not_mem.mpr fun e he => ?_
      have hmem := mem_primaryEntities_iff.mpr ⟨spec, hspec, DataSet.mem_entitiesOf_iff.mp he⟩
      rw [hprimary] at hmem
      exact List.not_mem_nil hmem
    rw [hnone]
    rfl
  next => exact flatMap_inRole fun _ => rfl

/-- What is found with the help of the table of places, check by check. -/
theorem places_eq_append :
    places set d l t = missingCoordinates set l t ++
      (if (primaryEntities set d).isEmpty || (l.entitiesIn t).isEmpty then []
        else (inRole .primary (loadedEntities set d)).flatMap (unlocated set l (l.entitiesIn t))) ++
      (if (primaryEntities set d).isEmpty then []
        else (inRole .secondary (loadedEntities set d)).flatMap
          (secondaryOnly set l d.allowlistedEntities (primaryEntities set d))) ++
      (if (l.entitiesIn t).isEmpty then []
        else allowedUnlocated set l d.allowlistedEntities (l.entitiesIn t)) := rfl

/-! ### Coordinates -/

/-- The entities of a table that have no place, ascending. -/
def unplaced (set : DataSet) (l : LocationTable) (t : Table) (spec : EntityTable) : List String :=
  (set.entitiesOf spec).filter (!(l.entitiesIn t).contains ·)

/-- The entities reported as without a place are those of the table that no row locates. -/
theorem mem_unplaced_iff {spec : EntityTable} {e : String} :
    e ∈ unplaced set l t spec ↔ set.HasEntity spec e ∧ ¬l.Locates t e := by
  rw [unplaced, List.mem_filter, DataSet.mem_entitiesOf_iff, Bool.not_eq_true',
    List.contains_eq_mem, decide_eq_false_iff_not, LocationTable.mem_entitiesIn_iff]
  refine and_congr_right fun hentity => not_congr ?_
  exact and_iff_right hentity.not_isBlankCell

/-- Entities without a place are reported in ascending order, each once. -/
theorem pairwise_unplaced (spec : EntityTable) : (unplaced set l t spec).Pairwise (· < ·) :=
  (DataSet.pairwise_entitiesOf spec).filter _

/-- The errors about coordinates, when there are places: first the rows, then the entities. -/
theorem filter_places_isCoordinateError (hlocated : l.entitiesIn t ≠ []) :
    (places set d l t).filter (·.isCoordinateError) =
      ((t.rows.filter fun row => l.LacksCoordinate t row).map fun row =>
        set.report l.file (.lacksCoordinate l t row)) ++
      (d.tablesIn .primary).flatMap fun spec => (unplaced set l t spec).map fun e =>
        set.report l.file (.withoutPlace l spec e) := by
  have hrows : (missingCoordinates set l t).filter (·.isCoordinateError) =
      (t.rows.filter fun row => l.LacksCoordinate t row).map fun row =>
        set.report l.file (.lacksCoordinate l t row) := by
    rw [missingCoordinates_eq_map]
    exact filter_report_eq_self (.lacksCoordinate l t) (fun _ => rfl) _
  have hentities (spec : EntityTable) :
      (unlocated set l (l.entitiesIn t) (spec, set.entitiesOf spec)).filter
        (·.isCoordinateError) =
      (unplaced set l t spec).map fun e => set.report l.file (.withoutPlace l spec e) :=
    filter_report_eq_self (.withoutPlace l spec) (fun _ => rfl) _
  have hsecondary (primary : List String) (table : EntityTable × List String) :
      (secondaryOnly set l d.allowlistedEntities primary table).filter (·.isCoordinateError) = [] :=
    filter_report_eq_nil (.secondaryOnly l table.1) (fun _ => rfl) _
  have hallowed (located : List String) :
      (allowedUnlocated set l d.allowlistedEntities located).filter (·.isCoordinateError) = [] :=
    filter_report_eq_nil (.allowedWithoutPlace l) (fun _ => rfl) _
  simp only [places_eq_append, List.filter_append, hrows, guarded_unlocated_eq hlocated,
    List.filter_flatMap, hentities, filter_guarded_eq_nil _ (filter_flatMap_eq_nil (hsecondary _) _),
    filter_guarded_eq_nil _ (hallowed _), List.append_nil]

/-- **The errors about coordinates.** When the table of places is there and has an entity, the check of
entities gives one error for each of its rows that lacks a coordinate, in the order of the rows, and
one for each entity of a primary table that no row has, table by table and ascending; it gives no other
errors about coordinates. So if it gives none, each entity of a primary table has a row with all its
coordinates. -/
theorem coordinateErrors_exact {tables : RuleTables} (hl : tables.data.locations = some l)
    (ht : set.table? l.file = some t) (hplace : ∃ e, isBlankCell e = false ∧ l.Locates t e) :
    (∃ unplaced : EntityTable → List String,
      (∀ spec, (unplaced spec).Pairwise (· < ·) ∧
        ∀ e, e ∈ unplaced spec ↔ set.HasEntity spec e ∧ ¬l.Locates t e) ∧
      (entities set tables).filter (·.isCoordinateError) =
        ((t.rows.filter fun row => l.LacksCoordinate t row).map fun row =>
          set.report l.file (.lacksCoordinate l t row)) ++
        (tables.data.tablesIn .primary).flatMap fun spec => (unplaced spec).map fun e =>
          set.report l.file (.withoutPlace l spec e)) ∧
    ((∀ f ∈ entities set tables, f.isCoordinateError = false) →
      ∀ spec ∈ tables.data.tablesIn .primary, ∀ e, set.HasEntity spec e →
        ∃ row ∈ t.rows, row.cell (t.column? l.entityColumn) = e ∧
          ∀ c ∈ l.coordinateColumns, isBlankCell (row.cell (t.column? c)) = false) := by
  have hlocated : l.entitiesIn t ≠ [] := by
    obtain ⟨e, he⟩ := hplace
    exact List.ne_nil_of_mem (LocationTable.mem_entitiesIn_iff.mpr he)
  have hfilter := (filter_entities_of_places hl ht fun _ _ => rfl).trans
    (filter_places_isCoordinateError hlocated)
  refine ⟨⟨unplaced set l t, fun spec => ⟨pairwise_unplaced spec, fun e => mem_unplaced_iff⟩,
    hfilter⟩, ?_⟩
  intro hclean spec hspec e hentity
  have hnone : (entities set tables).filter (·.isCoordinateError) = [] :=
    List.filter_eq_nil_iff.mpr fun f hf => Bool.not_eq_true _ ▸ hclean f hf
  obtain ⟨hrows, hentities⟩ := List.append_eq_nil_iff.mp (hfilter.symm.trans hnone)
  have hplaced : l.Locates t e := by
    by_contra hnot
    have hempty := List.map_eq_nil_iff.mp (List.flatMap_eq_nil_iff.mp hentities spec hspec)
    have hmem := mem_unplaced_iff.mpr ⟨hentity, hnot⟩
    rw [hempty] at hmem
    exact List.not_mem_nil hmem
  obtain ⟨row, hrow, he⟩ := hplaced
  refine ⟨row, hrow, he, fun c hc => ?_⟩
  have hwhole := List.filter_eq_nil_iff.mp (List.map_eq_nil_iff.mp hrows) row hrow
  rw [decide_eq_true_eq] at hwhole
  exact Bool.not_eq_true _ ▸ fun hblank => hwhole ⟨c, hc, hblank⟩

open RuleTables.Builtin in
/-- The built-in tables, a row of places without its last cell, and a depot without a row: each is
reported once, and what is no entity is not. -/
theorem coordinateErrors_exact_ragged :
    let l : LocationTable := ⟨"depot_locations.csv", "depot", ["latitude", "longitude"], false⟩
    let t : Table := ⟨["depot", "latitude", "longitude"],
      [["Pune Station", "18.5", "73.8"], ["Nigadi", "18.6"]]⟩
    let depots : Table := ⟨["Date", "Depot"], [["Jan 2023", "Katraj"], ["Jan 2023", "System Total"],
      ["Feb 2023", "Katraj"], ["Feb 2023", " "], ["Feb 2023"], ["Feb 2023", "Pune Station"]]⟩
    let set : DataSet := ⟨⟨[]⟩, ⟨[]⟩,
      [("depot_locations.csv", .table t), ("extracted.csv", .table depots)]⟩
    let spec := monthly "extracted.csv" "extracted" .primary
    RuleTables.builtin.data.locations = some l ∧ set.table? l.file = some t ∧
      (∃ e, isBlankCell e = false ∧ l.Locates t e) ∧
      (entities set RuleTables.builtin).filter (·.isCoordinateError) =
        [set.report l.file (.lacksCoordinate l t ["Nigadi", "18.6"]),
          set.report l.file (.withoutPlace l spec "Katraj")] := by
  intro l t depots set spec
  have hl : RuleTables.builtin.data.locations = some l := rfl
  have ht : set.table? l.file = some t := by decide +kernel
  have hplace : ∃ e, isBlankCell e = false ∧ l.Locates t e := ⟨"Nigadi", by decide +kernel⟩
  obtain ⟨⟨unplaced, hunplaced, hfilter⟩, -⟩ := coordinateErrors_exact hl ht hplace
  have hrows : (t.rows.filter fun row => l.LacksCoordinate t row) = [["Nigadi", "18.6"]] := by
    decide +kernel
  have hspecs : RuleTables.builtin.data.tablesIn .primary = [spec] := by decide +kernel
  have hnames : unplaced spec = ["Katraj"] := by
    obtain ⟨hascends, hmem⟩ := hunplaced spec
    have heq : unplaced spec = DataCheck.unplaced set l t spec :=
      Ascending.eq_of_pairwise_lt hascends (pairwise_unplaced spec) fun e =>
        (hmem e).trans mem_unplaced_iff.symm
    rw [heq]
    decide +kernel
  rw [hrows, hspecs] at hfilter
  refine ⟨hl, ht, hplace, hfilter.trans ?_⟩
  simp [hnames]

/-! ### Secondary tables -/

/-- The entities of a table that are in no primary table and not allowed to be, ascending. -/
def exclusive (set : DataSet) (d : DataTables) (spec : EntityTable) : List String :=
  (set.entitiesOf spec).filter fun e =>
    !(primaryEntities set d).contains e && !d.allowlistedEntities.contains e

/-- The entities reported as secondary only are those that no primary table has and no list allows. -/
theorem mem_exclusive_iff {spec : EntityTable} {e : String} :
    e ∈ exclusive set d spec ↔
      set.HasEntity spec e ∧ ¬d.HasPrimary set e ∧ e ∉ d.allowlistedEntities := by
  rw [exclusive, List.mem_filter, DataSet.mem_entitiesOf_iff, Bool.and_eq_true, Bool.not_eq_true',
    Bool.not_eq_true', List.contains_eq_mem, List.contains_eq_mem, decide_eq_false_iff_not,
    decide_eq_false_iff_not, mem_primaryEntities_iff]

/-- Entities that are secondary only are reported in ascending order, each once. -/
theorem pairwise_exclusive (spec : EntityTable) : (exclusive set d spec).Pairwise (· < ·) :=
  (DataSet.pairwise_entitiesOf spec).filter _

/-- The warnings about secondary tables, when the table of places is there. -/
theorem filter_places_isExclusive (hprimary : ∃ e, d.HasPrimary set e) :
    (places set d l t).filter (·.isExclusive) =
      (d.tablesIn .secondary).flatMap fun spec => (exclusive set d spec).map fun e =>
        set.report spec.file (.secondaryOnly l spec e) := by
  have hrows : (missingCoordinates set l t).filter (·.isExclusive) = [] := by
    rw [missingCoordinates_eq_map]
    exact filter_report_eq_nil (.lacksCoordinate l t) (fun _ => rfl) _
  have hentities (located : List String) (table : EntityTable × List String) :
      (unlocated set l located table).filter (·.isExclusive) = [] :=
    filter_report_eq_nil (.withoutPlace l table.1) (fun _ => rfl) _
  have hallowed (located : List String) :
      (allowedUnlocated set l d.allowlistedEntities located).filter (·.isExclusive) = [] :=
    filter_report_eq_nil (.allowedWithoutPlace l) (fun _ => rfl) _
  have hnotempty : (primaryEntities set d).isEmpty = false := by
    obtain ⟨e, he⟩ := hprimary
    exact List.isEmpty_eq_false_iff_exists_mem.mpr ⟨e, mem_primaryEntities_iff.mpr he⟩
  have hsecondary : ((inRole .secondary (loadedEntities set d)).flatMap
        (secondaryOnly set l d.allowlistedEntities (primaryEntities set d))).filter (·.isExclusive) =
      (d.tablesIn .secondary).flatMap fun spec => (exclusive set d spec).map fun e =>
        set.report spec.file (.secondaryOnly l spec e) := by
    rw [flatMap_inRole fun _ => rfl, List.filter_flatMap]
    exact List.flatMap_congr fun spec _ =>
      filter_report_eq_self (.secondaryOnly l spec) (fun _ => rfl) _
  simp only [places_eq_append, List.filter_append, hrows,
    filter_guarded_eq_nil _ (filter_flatMap_eq_nil (hentities _) _),
    filter_guarded_eq_nil _ (hallowed _), hnotempty, Bool.false_eq_true, if_false, hsecondary,
    List.nil_append, List.append_nil]

/-- **The warnings about secondary tables.** When a primary table has an entity, and the table of places
is there, the check of entities warns of each entity of a secondary table that is in no primary table
and not allowed to be, table by table and ascending, and of nothing else. Without a table of places it
gives no such warning, whatever the other tables hold. -/
theorem exclusiveWarnings_exact {tables : RuleTables}
    (hprimary : ∃ e, tables.data.HasPrimary set e) :
    ∃ exclusive : EntityTable → List String,
      (∀ spec, (exclusive spec).Pairwise (· < ·) ∧ ∀ e, e ∈ exclusive spec ↔
        set.HasEntity spec e ∧ ¬tables.data.HasPrimary set e ∧
          e ∉ tables.data.allowlistedEntities) ∧
      (∀ l t, tables.data.locations = some l → set.table? l.file = some t →
        (entities set tables).filter (·.isExclusive) =
          (tables.data.tablesIn .secondary).flatMap fun spec => (exclusive spec).map fun e =>
            set.report spec.file (.secondaryOnly l spec e)) ∧
      ((∀ l, tables.data.locations = some l → set.table? l.file = none) →
        (entities set tables).filter (·.isExclusive) = []) := by
  refine ⟨exclusive set tables.data,
    fun spec => ⟨pairwise_exclusive spec, fun e => mem_exclusive_iff⟩, ?_, ?_⟩
  · intro l t hl ht
    exact (filter_entities_of_places hl ht fun _ _ => rfl).trans (filter_places_isExclusive hprimary)
  · intro hnone
    exact filter_entities_of_no_places hnone fun _ _ => rfl

open RuleTables.Builtin in
/-- The built-in tables and a table of places without rows: an entity that is in the secondary table
alone is reported, one that is allowed to be is not. -/
theorem exclusiveWarnings_exact_noRows :
    let l : LocationTable := ⟨"depot_locations.csv", "depot", ["latitude", "longitude"], false⟩
    let depots : Table := ⟨["Date", "Depot"], [["Jan 2023", "Pune Station"]]⟩
    let lines : Table := ⟨["Date", "Depot"],
      [["Jan 2023", "Swargate"], ["Jan 2023", "M.Yard"], ["Jan 2023", "Pune Station"]]⟩
    let set : DataSet := ⟨⟨[]⟩, ⟨[]⟩, [("brt_extracted.csv", .table lines),
      ("depot_locations.csv", .table ⟨["depot"], []⟩), ("extracted.csv", .table depots)]⟩
    let spec := monthly "brt_extracted.csv" "brt_extracted" .secondary
    (∃ e, RuleTables.builtin.data.HasPrimary set e) ∧
      (entities set RuleTables.builtin).filter (·.isExclusive) =
        [set.report spec.file (.secondaryOnly l spec "Swargate")] := by
  intro l depots lines set spec
  have hprimary : ∃ e, RuleTables.builtin.data.HasPrimary set e :=
    ⟨"Pune Station", by decide +kernel⟩
  obtain ⟨exclusive, hexclusive, hfilter, -⟩ := exclusiveWarnings_exact hprimary
  have hspecs : RuleTables.builtin.data.tablesIn .secondary = [spec] := by decide +kernel
  have hnames : exclusive spec = ["Swargate"] := by
    obtain ⟨hascends, hmem⟩ := hexclusive spec
    have heq : exclusive spec = DataCheck.exclusive set RuleTables.builtin.data spec :=
      Ascending.eq_of_pairwise_lt hascends (pairwise_exclusive spec) fun e =>
        (hmem e).trans mem_exclusive_iff.symm
    rw [heq]
    decide +kernel
  have ht : set.table? l.file = some ⟨["depot"], []⟩ := by decide +kernel
  refine ⟨hprimary, (hfilter l _ rfl ht).trans ?_⟩
  rw [hspecs, List.flatMap_singleton, hnames]
  rfl

open RuleTables.Builtin in
/-- Without the table of places, an entity that is in the secondary table alone is not reported, though
a primary table has an entity. -/
theorem exclusiveWarnings_withoutPlaces :
    let depots : Table := ⟨["Date", "Depot"], [["Jan 2023", "Pune Station"]]⟩
    let lines : Table := ⟨["Date", "Depot"], [["Jan 2023", "Swargate"]]⟩
    let set : DataSet := ⟨⟨[]⟩, ⟨[]⟩, [("brt_extracted.csv", .table lines),
      ("depot_locations.csv", .missing), ("extracted.csv", .table depots)]⟩
    (∃ e, RuleTables.builtin.data.HasPrimary set e) ∧
      ¬∀ spec ∈ RuleTables.builtin.data.tablesIn .secondary, ∀ e, set.HasEntity spec e →
        ¬RuleTables.builtin.data.HasPrimary set e →
        e ∉ RuleTables.builtin.data.allowlistedEntities →
        ∃ f ∈ entities set RuleTables.builtin, f.isExclusive = true ∧
          f.file = set.display spec.file := by
  intro depots lines set
  refine ⟨⟨"Pune Station", by decide +kernel⟩, fun hclaim => ?_⟩
  have hnothing : entities set RuleTables.builtin = [] := by decide +kernel
  obtain ⟨f, hf, -⟩ := hclaim (monthly "brt_extracted.csv" "brt_extracted" .secondary)
    (by decide +kernel) "Swargate" (by decide +kernel) (by decide +kernel) (by decide +kernel)
  rw [hnothing] at hf
  exact List.not_mem_nil hf

end DataCheck

end PageLint
