import Mathlib.Data.List.Basic
import PageLint.RuleTables.Decode

/-!
# Tables that replace built-in ones

A configuration gives the fields of a record. A field may be given and be nothing, as other than not
given: `Value.Fields.Sets` and `Value.Fields.Leaves` say which of them counts as a setting.

The rule tables are read table by table, and so are the tables about the data directory, one level
below (`TablePart`). A table that is named is read and takes the place of the built-in one; a table
that is not named is the built-in one, whatever other tables are named.

## Main results

* `Value.find?_of_record?_table`: the fields of a record are those that are written.
* `DataTables.ofValue?_eq_some_iff`, `RuleTables.ofValue?_eq_some_iff`: **which tables a configuration
  replaces**.
-/

namespace PageLint

/-! ### Fields -/

namespace Value

namespace Fields

variable {α : Type} {fields : Fields} {name : String} {read : Value → Option α} {x default : α}

/-- Is the field given, and not as nothing, and is this its value? -/
def Sets (fields : Fields) (name : String) (read : Value → Option α) (x : α) : Prop :=
  ∃ v, fields.find? name = some v ∧ v.isNull = false ∧ read v = some x

/-- Is the field not given, or given as nothing? -/
def Leaves (fields : Fields) (name : String) : Prop :=
  ∀ v, fields.find? name = some v → v.isNull = true

/-- Can the field be read, if it is given? -/
def IsReadable (fields : Fields) (name : String) (read : Value → Option α) : Prop :=
  fields.Leaves name ∨ ∃ x, fields.Sets name read x

/-- A field that may be missing is read as what it is set to. -/
theorem optional_eq_some_some_iff :
    fields.optional name read = some (some x) ↔ fields.Sets name read x := by
  rw [optional, getD, Sets]
  cases fields.find? name with
  | none => simp
  | some v =>
      simp only [optional?]
      cases hnull : v.isNull with
      | true => simp [hnull]
      | false => simp [hnull]

/-- A field that may be missing is read as nothing where it is not set. -/
theorem optional_eq_some_none_iff :
    fields.optional name read = some none ↔ fields.Leaves name := by
  rw [optional, getD, Leaves]
  cases fields.find? name with
  | none => simp
  | some v =>
      simp only [optional?]
      cases hnull : v.isNull with
      | true => simp [hnull]
      | false => simp [hnull]

/-- A field that may be missing is read if it can be. -/
theorem exists_optional_eq_some_iff :
    (∃ o, fields.optional name read = some o) ↔ fields.IsReadable name read := by
  rw [Option.exists, optional_eq_some_none_iff, IsReadable]
  simp only [optional_eq_some_some_iff]

/-- A field with a value of its own is read as what is given, or has that value. -/
theorem getD_eq_some_iff : fields.getD name read default = some x ↔
    (∃ v, fields.find? name = some v ∧ read v = some x) ∨
      fields.find? name = none ∧ x = default := by
  rw [getD]
  cases hfind : fields.find? name with
  | none => simp [eq_comm]
  | some v => simp

end Fields

/-- The fields of a record that is written as a table are those that are written in it. -/
theorem find?_of_record?_table {entries : List (String × Value)} {names : List String}
    {fields : Fields} {name : String} {least : Nat}
    (h : (table entries).record? names least = some fields) (hname : name ∈ names) :
    fields.find? name = Fields.find? entries name := by
  simp only [record?] at h
  split at h
  · obtain rfl := Option.some.inj h
    rw [Fields.find?, Fields.find?, List.find?_filter]
    have hkey : ∀ e : String × Value,
        decide (names.contains e.1 = true ∧ (e.1 == name) = true) = (e.1 == name) := by
      intro e
      rw [Bool.eq_iff_iff, decide_eq_true_iff, and_iff_right_iff_imp]
      intro h
      obtain rfl := beq_iff_eq.mp h
      exact List.contains_iff_mem.mpr hname
    simp only [hkey]
  · cases h

end Value

open Value

/-! ### Tables one by one -/

/-- One of the tables that are kept together: the name by which it is given, how it is read, and where
it is kept. -/
structure TablePart (σ : Type) where
  /-- The type of the table. -/
  {α : Type}
  /-- The name by which a configuration gives the table. -/
  name : String
  /-- How the table is read. -/
  read : Value → Option α
  /-- Where the table is kept. -/
  get : σ → α

/-- Is the table the one that is given, or the built-in one if none is given? -/
def TablePart.Follows {σ : Type} (part : TablePart σ) (fields : Fields) (builtin tables : σ) : Prop :=
  (∃ v, fields.find? part.name = some v ∧ part.read v = some (part.get tables)) ∨
    fields.find? part.name = none ∧ part.get tables = part.get builtin

/-- A part of the tables follows the fields exactly if it is read from its field or left as it was. -/
theorem TablePart.follows_iff {σ : Type} {part : TablePart σ} {fields : Fields} {builtin tables : σ} :
    part.Follows fields builtin tables ↔
      fields.getD part.name part.read (part.get builtin) = some (part.get tables) :=
  Fields.getD_eq_some_iff.symm

/-- The tables about the data directory. -/
def DataTables.parts : List (TablePart DataTables) :=
  [⟨"entity_tables", listOf? EntityTable.ofValue?, (·.entityTables)⟩,
   ⟨"locations", optional? LocationTable.ofValue?, (·.locations)⟩,
   ⟨"allowlisted_entities", fun v => (texts? v).map Ascending.ofList, (·.allowlistedEntities)⟩,
   ⟨"ranges", listOf? RangeCheck.ofValue?, (·.ranges)⟩,
   ⟨"aggregates", listOf? AggregateCheck.ofValue?, (·.aggregates)⟩,
   ⟨"references", listOf? ReferenceFile.ofValue?, (·.references)⟩]

/-- Are the tables about the data directory those that the value names, and the built-in ones for all
others? -/
def DataTables.Overrides (v : Value) (d : DataTables) : Prop :=
  ∃ fields, v.record? (parts.map (·.name)) = some fields ∧
    ∀ part ∈ parts, part.Follows fields builtin d

/-- **Which tables about the data directory are replaced.** -/
theorem DataTables.ofValue?_eq_some_iff {v : Value} {d : DataTables} :
    ofValue? v = some d ↔ Overrides v d := by
  simp only [ofValue?, Overrides, TablePart.follows_iff, Option.bind_eq_bind,
    Option.bind_eq_some_iff, Option.pure_def, Option.some.injEq]
  refine exists_congr fun fields => and_congr_right fun _ => ?_
  simp only [parts, List.forall_mem_cons, List.not_mem_nil, false_imp_iff, implies_true, and_true]
  constructor
  · rintro ⟨_, h₁, _, h₂, _, h₃, _, h₄, _, h₅, _, h₆, rfl⟩
    exact ⟨h₁, h₂, h₃, h₄, h₅, h₆⟩
  · rintro ⟨h₁, h₂, h₃, h₄, h₅, h₆⟩
    exact ⟨_, h₁, _, h₂, _, h₃, _, h₄, _, h₅, _, h₆, rfl⟩

/-- The rule tables, without those about the data directory. -/
def RuleTables.parts : List (TablePart RuleTables) :=
  [⟨"primary_tables", texts?, (·.primaryTables)⟩,
   ⟨"null_guard", string?, (·.nullGuard)⟩,
   ⟨"date_axis", string?, (·.dateAxis)⟩,
   ⟨"deprecated_names", names?, (·.deprecatedNames)⟩,
   ⟨"known_issues", listOf? KnownIssue.ofValue?, (·.knownIssues)⟩,
   ⟨"gaps", listOf? Gap.Interval.ofValue?, (·.gaps)⟩,
   ⟨"capped_columns", texts?, (·.cappedColumns)⟩,
   ⟨"swapped_columns", texts?, (·.swappedColumns)⟩,
   ⟨"unreliable_columns", listOf? UnreliableColumn.ofValue?, (·.unreliableColumns)⟩,
   ⟨"integer_year_columns", texts?, (·.integerYearColumns)⟩,
   ⟨"format_keywords", texts?, (·.formatKeywords)⟩,
   ⟨"zero_cross_keywords", texts?, (·.zeroCrossKeywords)⟩,
   ⟨"markers", listOf? Marker.ofValue?, (·.markers)⟩,
   ⟨"citations", listOf? Citation.ofValue?, (·.citations)⟩,
   ⟨"series_orders", listOf? SeriesOrder.ofValue?, (·.seriesOrders)⟩]

/-- Are the rule tables those that the value names, and the built-in ones for all others? The same is
asked of the tables about the data directory, if the value has any. -/
def RuleTables.Overrides (v : Value) (tables : RuleTables) : Prop :=
  ∃ fields, v.record? (parts.map (·.name) ++ ["data"]) = some fields ∧
    (∀ part ∈ parts, part.Follows fields builtin tables) ∧
    ((∃ w, fields.find? "data" = some w ∧ DataTables.Overrides w tables.data) ∨
      fields.find? "data" = none ∧ tables.data = DataTables.builtin)

/-- **Which rule tables are replaced.** -/
theorem RuleTables.ofValue?_eq_some_iff {v : Value} {tables : RuleTables} :
    ofValue? v = some tables ↔ Overrides v tables := by
  have hdata : ∀ {fields : Fields} {d : DataTables},
      fields.getD "data" DataTables.ofValue? builtin.data = some d ↔
        (∃ w, fields.find? "data" = some w ∧ DataTables.Overrides w d) ∨
          fields.find? "data" = none ∧ d = DataTables.builtin := by
    simp only [← DataTables.ofValue?_eq_some_iff]
    exact Fields.getD_eq_some_iff
  simp only [Overrides, TablePart.follows_iff, ← hdata, parts, List.forall_mem_cons,
    List.not_mem_nil, false_imp_iff, implies_true, and_true]
  constructor
  · intro h
    obtain ⟨fields, hrecord, h⟩ := Option.bind_eq_some_iff.mp h
    obtain ⟨_, h₁, h⟩ := Option.bind_eq_some_iff.mp h
    obtain ⟨_, h₂, h⟩ := Option.bind_eq_some_iff.mp h
    obtain ⟨_, h₃, h⟩ := Option.bind_eq_some_iff.mp h
    obtain ⟨_, h₄, h⟩ := Option.bind_eq_some_iff.mp h
    obtain ⟨_, h₅, h⟩ := Option.bind_eq_some_iff.mp h
    obtain ⟨_, h₆, h⟩ := Option.bind_eq_some_iff.mp h
    obtain ⟨_, h₇, h⟩ := Option.bind_eq_some_iff.mp h
    obtain ⟨_, h₈, h⟩ := Option.bind_eq_some_iff.mp h
    obtain ⟨_, h₉, h⟩ := Option.bind_eq_some_iff.mp h
    obtain ⟨_, h₁₀, h⟩ := Option.bind_eq_some_iff.mp h
    obtain ⟨_, h₁₁, h⟩ := Option.bind_eq_some_iff.mp h
    obtain ⟨_, h₁₂, h⟩ := Option.bind_eq_some_iff.mp h
    obtain ⟨_, h₁₃, h⟩ := Option.bind_eq_some_iff.mp h
    obtain ⟨_, h₁₄, h⟩ := Option.bind_eq_some_iff.mp h
    obtain ⟨_, h₁₅, h⟩ := Option.bind_eq_some_iff.mp h
    obtain ⟨_, hd, h⟩ := Option.bind_eq_some_iff.mp h
    obtain rfl := Option.some.inj h
    exact ⟨fields, hrecord, ⟨h₁, h₂, h₃, h₄, h₅, h₆, h₇, h₈, h₉, h₁₀, h₁₁, h₁₂, h₁₃, h₁₄, h₁₅⟩, hd⟩
  · rintro ⟨fields, hrecord,
      ⟨h₁, h₂, h₃, h₄, h₅, h₆, h₇, h₈, h₉, h₁₀, h₁₁, h₁₂, h₁₃, h₁₄, h₁₅⟩, hd⟩
    refine Option.bind_eq_some_iff.mpr ⟨fields, hrecord, ?_⟩
    simp only [h₁, h₂, h₃, h₄, h₅, h₆, h₇, h₈, h₉, h₁₀, h₁₁, h₁₂, h₁₃, h₁₄, h₁₅, hd,
      Option.bind_eq_bind, Option.bind_some, Option.pure_def]

end PageLint
