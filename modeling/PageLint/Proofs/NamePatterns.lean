import PageLint.Checker
import PageLint.Proofs.PatternReading

/-!
# Compiling the patterns of tables

Rule tables hold names of columns and tables, for which patterns are made, and markers with patterns of
their own. All of them have to be read before a checker is made, the patterns for columns first and
those for tables last. A pattern for a name can always be read, and it takes too much room only if the
name is very long (`Pattern.ofText?_castText`). So only markers decide whether there is a checker
(`RuleTables.compile_eq`).

## Main results

* `RuleTables.readsNames_ofText?`: patterns for short names are read.
* `Checker.ofTablesWith_eq_error_iff`: **which rule tables make no checker**.
-/

namespace PageLint

namespace Pattern

/-! ### The room of patterns for names -/

/-- The pattern of the empty text costs nothing. -/
theorem cost_empty : empty.cost = 0 := rfl

/-- The costs of two patterns, one behind the other, add up. -/
theorem cost_seq (p q : Pattern) : (seq p q).cost = p.cost + q.cost := rfl

/-- The cost of a name grows with its length. -/
theorem cost_literal (name : Text) (p : Pattern) :
    (literal name p).cost = 32 * name.length + p.cost := by
  induction name with
  | nil => simp [literal]
  | cons c name ih =>
      have hc : (literal (c :: name) p).cost = 32 * 1 + (literal name p).cost := rfl
      rw [hc, ih, List.length_cons]
      omega

/-- Names up to this length do not make their patterns too large. -/
def maxNameLength : Nat := 300000

/-- The pattern for the cast of a column costs no more than is allowed, if its name is not too long. -/
theorem cost_castPattern_le {column : String} (h : column.toList.length ≤ maxNameLength) :
    (castPattern column).cost ≤ maxCost := by
  have hoptional : (times 0 (some 1) qualifier).cost ≤ 60000 := by decide +kernel
  have htail : "\" AS DOUBLE)".toList.length = 12 := by decide +kernel
  have hmax : maxCost = 10485760 := by decide
  rw [maxNameLength] at h
  rw [castPattern, quotedColumn, cost_literal, cost_seq, cost_literal, cost_empty, List.length_cons,
    List.length_append, length_castStart, htail]
  omega

/-- The pattern for a reference to a table costs no more than is allowed, if its name is not too long. -/
theorem cost_tablePattern_le {table : String} (h : table.toList.length ≤ maxNameLength) :
    (tablePattern table).cost ≤ maxCost := by
  have hboundary : (place (.wordBoundary .word)).cost = 32 := rfl
  have hword : readingWord.cost ≤ 1000 := by decide +kernel
  have hblanks : (times 1 none (.char .space)).cost ≤ 1000 := by decide +kernel
  have hmax : maxCost = 10485760 := by decide
  rw [maxNameLength] at h
  rw [tablePattern, cost_seq, cost_seq, cost_seq, cost_literal, cost_seq, cost_empty, hboundary]
  omega

/-- A pattern that is not too large is read with and without the bound on its room. -/
theorem ofText?_eq_parse? {t : Text} {p : Pattern} (h : parse? t = some p) (hcost : p.cost ≤ maxCost) :
    ofText? t = parse? t := by
  rw [ofText?, h, Option.filter_some, if_pos (decide_eq_true hcost)]

end Pattern

/-! ### Compiling -/

section

variable {α β ε : Type} {f : α → Except ε β} {l : List α} {e : ε}

/-- What is made of a result fails as the result does. -/
theorem bind_pure_eq_error_iff {x : Except ε α} {g : α → β} :
    (x >>= fun a => pure (g a)) = .error e ↔ x = .error e := by
  cases x with
  | error e' => exact ⟨congrArg _ ∘ Except.error.inj, congrArg _ ∘ Except.error.inj⟩
  | ok a =>
      constructor
      · intro h
        cases h
      · intro h
        cases h

/-- A list is taken to a list if all its elements are. -/
theorem exists_mapM_eq_ok (h : ∀ a ∈ l, ∃ b, f a = .ok b) : ∃ bs, l.mapM f = .ok bs := by
  induction l with
  | nil => exact ⟨[], rfl⟩
  | cons a l ih =>
      obtain ⟨b, hb⟩ := h a List.mem_cons_self
      obtain ⟨bs, hbs⟩ := ih fun a' ha' => h a' (List.mem_cons_of_mem a ha')
      refine ⟨b :: bs, ?_⟩
      rw [List.mapM_cons, hb, hbs]
      rfl

/-- The first element with a property is the head, or the head is passed over. -/
theorem exists_first_cons_iff {P Q : α → Prop} {a : α} :
    (∃ before a' after, a :: l = before ++ a' :: after ∧ (∀ b ∈ before, P b) ∧ Q a') ↔
      Q a ∨ P a ∧ ∃ before a' after, l = before ++ a' :: after ∧ (∀ b ∈ before, P b) ∧ Q a' := by
  constructor
  · rintro ⟨before, a', after, hl, hbefore, ha'⟩
    cases before with
    | nil =>
        obtain ⟨rfl, rfl⟩ := List.cons.inj hl
        exact Or.inl ha'
    | cons b before =>
        obtain ⟨rfl, rfl⟩ := List.cons.inj hl
        obtain ⟨hb, hbefore⟩ := List.forall_mem_cons.mp hbefore
        exact Or.inr ⟨hb, before, a', after, rfl, hbefore, ha'⟩
  · rintro (ha | ⟨ha, before, a', after, rfl, hbefore, ha'⟩)
    · exact ⟨[], a, l, rfl, List.forall_mem_nil _, ha⟩
    · exact ⟨a :: before, a', after, rfl, List.forall_mem_cons.mpr ⟨ha, hbefore⟩, ha'⟩

/-- A list is taken to the error of its first element that is taken to one. -/
theorem mapM_eq_error_iff :
    l.mapM f = .error e ↔
      ∃ before a after, l = before ++ a :: after ∧ (∀ a' ∈ before, ∃ b, f a' = .ok b) ∧
        f a = .error e := by
  induction l with
  | nil =>
      constructor
      · intro h
        cases h
      · rintro ⟨before, a, after, h, -, -⟩
        exact absurd h (by simp)
  | cons a l ih =>
      rw [List.mapM_cons, exists_first_cons_iff, ← ih]
      cases ha : f a with
      | error e' =>
          change Except.error e' = .error e ↔ _
          simp
      | ok b =>
          refine bind_pure_eq_error_iff.trans ?_
          simp

end

/-- Can the pattern of the marker be read, if it has one? -/
def Marker.Compiles (read : Text → Option Pattern) (m : Marker) : Prop :=
  ∀ t, m.contentPattern = some t → (read t.toList).isSome = true

/-- The pattern of a marker can be read, or the error names the rule of the marker. -/
theorem Marker.pattern?_cases (read : Text → Option Pattern) (m : Marker) :
    (m.Compiles read ∧ ∃ p, m.pattern? read = .ok p) ∨
      (¬m.Compiles read ∧ m.pattern? read = .error ⟨m.rule⟩) := by
  rw [Marker.Compiles, Marker.pattern?]
  cases m.contentPattern with
  | none =>
      refine Or.inl ⟨?_, none, rfl⟩
      intro t ht
      cases ht
  | some t =>
      cases hread : read t.toList with
      | some p =>
          refine Or.inl ⟨?_, some p, ?_⟩
          · rintro t' ht'
            obtain rfl := Option.some.inj ht'
            rw [hread]
            rfl
          · simp only [Pattern.compile, hread]
            rfl
      | none =>
          refine Or.inr ⟨?_, ?_⟩
          · intro h
            have hsome := h t rfl
            rw [hread] at hsome
            cases hsome
          · simp only [Pattern.compile, hread]
            rfl

/-- A marker's pattern cannot be read exactly if there is an error. -/
theorem Marker.pattern?_eq_error_iff {read : Text → Option Pattern} {m : Marker}
    {e : PatternError} : m.pattern? read = .error e ↔ ¬m.Compiles read ∧ e = ⟨m.rule⟩ := by
  rcases m.pattern?_cases read with ⟨hcompiles, p, hok⟩ | ⟨hcompiles, herror⟩
  · rw [hok]
    refine iff_of_false ?_ fun h => h.1 hcompiles
    intro h
    cases h
  · rw [herror]
    constructor
    · intro h
      exact ⟨hcompiles, (Except.error.inj h).symm⟩
    · rintro ⟨-, rfl⟩
      rfl

namespace RuleTables

variable {read : Text → Option Pattern} {tables : RuleTables}

/-- The tables that patterns are made for. -/
def namedTables (tables : RuleTables) : List String :=
  tables.primaryTables ++ tables.gaps.map (·.source)

/-- Are the patterns for names read in this way, without regard to their size? -/
structure ReadsNames (read : Text → Option Pattern) (tables : RuleTables) : Prop where
  /-- Patterns for columns are. -/
  columns : ∀ column ∈ tables.cappedColumns,
    read (Pattern.castText column) = Pattern.parse? (Pattern.castText column)
  /-- Patterns for tables are. -/
  namedTables : ∀ table ∈ tables.namedTables,
    read (Pattern.tableText table) = Pattern.parse? (Pattern.tableText table)

/-- **Patterns for short names are read** as if their size did not matter. -/
theorem readsNames_ofText?
    (hcolumns : ∀ column ∈ tables.cappedColumns, column.toList.length ≤ Pattern.maxNameLength)
    (htables : ∀ table ∈ tables.namedTables, table.toList.length ≤ Pattern.maxNameLength) :
    tables.ReadsNames Pattern.ofText? := by
  refine ⟨?_, ?_⟩
  · intro column hcolumn
    exact Pattern.ofText?_eq_parse? (Pattern.parse?_castText column)
      (Pattern.cost_castPattern_le (hcolumns column hcolumn))
  · intro table htable
    exact Pattern.ofText?_eq_parse? (Pattern.parse?_tableText table)
      (Pattern.cost_tablePattern_le (htables table htable))

/-- The markers, each with its pattern if it has one. -/
def compileMarkers (read : Text → Option Pattern) (tables : RuleTables) :
    Except PatternError (List (Marker × Option Pattern)) :=
  tables.markers.mapM fun m => do return (m, ← m.pattern? read)

/-- **Names do not matter** for whether all patterns can be read. -/
theorem compile_eq (h : tables.ReadsNames read) : tables.compile read = tables.compileMarkers read := by
  have hcolumns : ∃ ps, tables.cappedColumns.mapM (fun column =>
      Pattern.compile read "SQL_VALUE_CAP" (Pattern.castText column)) = .ok ps := by
    refine exists_mapM_eq_ok fun column hcolumn => ⟨Pattern.castPattern column, ?_⟩
    rw [Pattern.compile, h.columns column hcolumn, Pattern.parse?_castText]
  have htables : ∃ ps, (tables.namedTables.eraseDups.mapM fun table =>
      Pattern.compile read "SQL_NULL_GUARD" (Pattern.tableText table)) = .ok ps := by
    refine exists_mapM_eq_ok fun table htable => ⟨Pattern.tablePattern table, ?_⟩
    rw [Pattern.compile, h.namedTables table (List.mem_eraseDups.mp htable),
      Pattern.parse?_tableText]
  obtain ⟨ps, hps⟩ := hcolumns
  obtain ⟨qs, hqs⟩ := htables
  rw [namedTables] at hqs
  rw [compile, hps]
  simp only [hqs]
  change (tables.compileMarkers read >>= fun markers => pure markers) = _
  cases tables.compileMarkers read with
  | error e => rfl
  | ok markers => rfl

end RuleTables

namespace Checker

variable {read : Text → Option Pattern} {tables : RuleTables}

/-- The checker for rule tables without markers: there is no pattern to keep. -/
def ofUnmarked (tables : RuleTables) : Checker :=
  ⟨tables, Gap.Table.ofIntervals tables.gaps, KnownIssues.ofList tables.knownIssues, []⟩

/-- Rule tables without markers make a checker. -/
theorem ofTables_ofUnmarked (h : tables.ReadsNames Pattern.ofText?) (hmarkers : tables.markers = []) :
    ofTables tables = .ok (ofUnmarked tables) := by
  rw [ofTables, ofTablesWith, RuleTables.compile_eq h, RuleTables.compileMarkers, hmarkers]
  rfl

/-- **Which rule tables make no checker**: those with a marker whose pattern cannot be read. The error
names the rule of the first such marker. -/
theorem ofTablesWith_eq_error_iff (h : tables.ReadsNames read) {e : PatternError} :
    ofTablesWith read tables = .error e ↔
      ∃ before m after, tables.markers = before ++ m :: after ∧
        (∀ b ∈ before, b.Compiles read) ∧ ¬m.Compiles read ∧ e = ⟨m.rule⟩ := by
  have hresult : ∀ m : Marker, (∃ p, (do return (m, ← m.pattern? read) :
      Except PatternError (Marker × Option Pattern)) = .ok p) ↔ m.Compiles read := by
    intro m
    rcases m.pattern?_cases read with ⟨hcompiles, p, hok⟩ | ⟨hcompiles, herror⟩
    · rw [hok]
      exact iff_of_true ⟨_, rfl⟩ hcompiles
    · rw [herror]
      refine iff_of_false ?_ hcompiles
      rintro ⟨p, hp⟩
      cases hp
  rw [ofTablesWith, RuleTables.compile_eq h, bind_pure_eq_error_iff, RuleTables.compileMarkers,
    mapM_eq_error_iff]
  simp only [hresult, bind_pure_eq_error_iff, Marker.pattern?_eq_error_iff]

end Checker

end PageLint
