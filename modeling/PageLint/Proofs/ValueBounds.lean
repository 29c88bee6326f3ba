import Mathlib
import PageLint.Proofs.BuiltinCheckers
import PageLint.Proofs.Silencing

/-!
# Values beyond a bound

The check of single values is written as "not at most the bound". For numbers that is "greater than the
bound", with the infinities as the ends of the order (`Binary64.Exceeds`); but the cell may also say
that there is no number, in words that are read as a value (`Binary64.IsNanWord`), and such a value is
not at most anything. So the rows that are reported are of two kinds.

## Main results

* `Binary64.le_iff`, `Binary64.le_eq_false_iff`: the comparison, and what it means that it fails.
* `Binary64.ofText?_eq_some_nan_iff`: the words that are read as the value that is no number.
* `DataCheck.rowNotice?_eq_some_iff`: what is said about one row, and when.
* `DataCheck.ranges_exact`: **the rows that are reported**, one finding each and in their order.
-/

namespace PageLint

namespace Binary64

/-! ### Order -/

/-- Where the number stands among all numbers, counted in units. The value that is no number stands
nowhere. -/
def extent? : Binary64 → Option (WithBot (WithTop ℤ))
  | nan => none
  | infinity negative => some (if negative then ⊥ else ⊤)
  | finite negative units => some ((signed negative units : WithTop ℤ) : WithBot (WithTop ℤ))

/-- Is it a number that is greater than the bound, which is one, too? -/
def Exceeds (v bound : Binary64) : Prop := ∃ x ∈ v.extent?, ∃ y ∈ bound.extent?, y < x

/-- Only the value that is no number stands nowhere. -/
theorem extent?_eq_none_iff {v : Binary64} : v.extent? = none ↔ v = nan := by
  cases v <;> simp [extent?]

/-- The comparison is that of the places among all numbers. -/
theorem le_iff {v w : Binary64} :
    v.le w = true ↔ ∃ x ∈ v.extent?, ∃ y ∈ w.extent?, x ≤ y := by
  cases v with
  | nan => simp [le, extent?]
  | infinity n =>
      cases w with
      | nan => cases n <;> simp [le, extent?]
      | infinity m => cases n <;> cases m <;> simp [le, extent?]
      | finite m u => cases n <;> simp [le, extent?]
  | finite n u =>
      cases w with
      | nan => simp [le, extent?]
      | infinity m => cases m <;> simp [le, extent?]
      | finite m v => simp [le, extent?]

/-- What is not at most a bound exceeds it, or is no number. -/
theorem le_eq_false_iff {v bound : Binary64} (hbound : bound ≠ nan) :
    v.le bound = false ↔ v = nan ∨ v.Exceeds bound := by
  obtain ⟨y, hy⟩ := Option.ne_none_iff_exists'.mp (mt extent?_eq_none_iff.mp hbound)
  rw [← Bool.not_eq_true, le_iff, Exceeds, hy]
  cases hv : v.extent? with
  | none => simp [extent?_eq_none_iff.mp hv]
  | some x =>
      have hne : v ≠ nan := fun hnan => by simp [hnan, extent?] at hv
      simp [hne]

/-- One number exceeds another exactly if it is not found to be at most the other. -/
theorem exceeds_iff {v bound : Binary64} :
    v.Exceeds bound ↔ v ≠ nan ∧ bound ≠ nan ∧ v.le bound = false := by
  constructor
  · intro h
    obtain ⟨x, hx, y, hy, -⟩ := id h
    have hv : v ≠ nan := fun hnan => by simp [hnan, extent?] at hx
    have hbound : bound ≠ nan := fun hnan => by simp [hnan, extent?] at hy
    exact ⟨hv, hbound, (le_eq_false_iff hbound).mpr (.inr h)⟩
  · rintro ⟨hv, hbound, hle⟩
    exact ((le_eq_false_iff hbound).mp hle).resolve_left hv

instance (v bound : Binary64) : Decidable (v.Exceeds bound) := decidable_of_iff _ exceeds_iff.symm

/-! ### Words that are no number -/

/-- Is the text the word for no number, in any case and with or without a sign? -/
def IsNanWord (t : Text) : Prop :=
  ∃ sign word, t = sign ++ word ∧ sign ∈ [[], ['+'], ['-']] ∧ word.map Char.toLower = "nan".toList

/-- Numbers that are rounded are numbers. -/
theorem ofUnits_ne_nan (negative : Bool) (num den : Nat) : ofUnits negative num den ≠ nan := by
  simp only [ofUnits]
  split <;> simp

/-- What is read from a decimal form is a number. -/
theorem ofDecimal_ne_nan (negative : Bool) (digits : Nat) (exponent : Int) :
    ofDecimal negative digits exponent ≠ nan := by
  simp only [ofDecimal]
  split
  · simp
  split
  · simp
  split
  · exact ofUnits_ne_nan _ _ _
  · exact ofUnits_ne_nan _ _ _

/-- What is left behind the sign of a text has a sign in front of it, or none. -/
theorem exists_sign (t : Text) : ∃ sign ∈ [[], ['+'], ['-']], t = sign ++ (readSign t).2 := by
  fun_cases readSign t with
  | case1 t => exact ⟨['-'], by simp, rfl⟩
  | case2 t => exact ⟨['+'], by simp, rfl⟩
  | case3 t => exact ⟨[], by simp, rfl⟩

/-- A sign is taken off a word that begins with a letter. -/
theorem readSign_append {sign word : Text} (hsign : sign ∈ [[], ['+'], ['-']])
    (hword : word.map Char.toLower = "nan".toList) : (readSign (sign ++ word)).2 = word := by
  have hletter : ∀ c ∈ word.head?, c ≠ '-' ∧ c ≠ '+' := by
    intro c hc
    have hlower : c.toLower = 'n' := by
      have hhead := congrArg List.head? hword
      rw [List.head?_map, hc] at hhead
      exact Option.some.inj hhead
    constructor
    · rintro rfl
      exact absurd hlower (by decide)
    · rintro rfl
      exact absurd hlower (by decide)
  simp only [List.mem_cons, List.not_mem_nil, or_false] at hsign
  obtain rfl | rfl | rfl := hsign
  · rw [List.nil_append]
    fun_cases readSign word with
    | case1 t => exact absurd rfl (hletter '-' rfl).1
    | case2 t => exact absurd rfl (hletter '+' rfl).2
    | case3 t => rfl
  · rfl
  · rfl

/-- A text is read as the value that is no number when the word behind its sign is the word for it. -/
theorem ofText?_eq_some_nan {t : Text} :
    ofText? t = some nan ↔ (readSign t).2.map Char.toLower = "nan".toList := by
  have hstr : (Text.str ((readSign t).2.map Char.toLower) == "nan") = true ↔
      (readSign t).2.map Char.toLower = "nan".toList := by
    rw [beq_iff_eq, Text.str, ← String.toList_inj, String.toList_ofList]
  rw [ofText?, ← hstr]
  cases hword : Text.str ((readSign t).2.map Char.toLower) == "nan" with
  | true => simp [hword]
  | false =>
      simp only [hword, Bool.false_eq_true, if_false, iff_false]
      split
      · simp
      split
      · split
        · simp
        · simp [ofDecimal_ne_nan]
      · split
        · simp
        · simp [ofDecimal_ne_nan]

/-- **The words that are read as the value that is no number.** -/
theorem ofText?_eq_some_nan_iff {t : Text} : ofText? t = some nan ↔ IsNanWord t := by
  rw [ofText?_eq_some_nan]
  constructor
  · intro hword
    obtain ⟨sign, hsign, ht⟩ := exists_sign t
    exact ⟨sign, _, ht, hsign, hword⟩
  · rintro ⟨sign, word, rfl, hsign, hword⟩
    rwa [readSign_append hsign hword]

instance (t : Text) : Decidable (IsNanWord t) := decidable_of_iff _ ofText?_eq_some_nan_iff

end Binary64

/-! ### Rows -/

/-- A blank cell has no number. -/
theorem cellNumber?_of_isBlankCell {cell : String} (h : isBlankCell cell = true) :
    cellNumber? cell = none := by
  rw [isBlankCell, Text.isBlank, List.all_eq_true] at h
  have hempty : Text.trim cell.toList = [] := by
    rw [Text.trim, Text.stripWhile, List.dropWhile_eq_nil_iff.mpr h]
    rfl
  rw [cellNumber?, hempty]
  decide

namespace RangeCheck

variable (r : RangeCheck) (spec : EntityTable) (t : Table) (row : Row)

/-- The cell of a row with the value. -/
def valueCell : String := row.cell (t.column? r.column)

/-- The cell of a row with the date. -/
def dateCell (spec : EntityTable) (t : Table) (row : Row) : String :=
  row.cell (spec.periodColumn.bind t.column?)

/-- The cell of a row with the entity. -/
def entityCell (spec : EntityTable) (t : Table) (row : Row) : String :=
  row.cell (t.column? spec.entityColumn)

/-- Is the value of the row a number that is greater than the bound? -/
def IsAbove : Prop := ∃ v ∈ cellNumber? (r.valueCell t row), v.Exceeds r.max

/-- Does the row have the word for no number in the place of its value? -/
def SaysNan : Prop := Binary64.IsNanWord (Text.trim (r.valueCell t row).toList)

/-- Does one of the issues accept the value of the row? -/
def IsAccepted (issues : List KnownIssue) : Prop :=
  ∃ k ∈ issues, k.Covers r.file (dateCell spec t row) (entityCell spec t row) r.column

/-- Is this the finding about the value of the row? -/
def Reports (set : DataSet) (f : Finding) : Prop :=
  ∃ v ∈ cellNumber? (r.valueCell t row),
    f = set.report r.file (r.notice (dateCell spec t row) (entityCell spec t row) v)

instance : Decidable (r.IsAbove t row) := by
  unfold IsAbove
  infer_instance

instance : Decidable (r.SaysNan t row) := inferInstanceAs (Decidable (Binary64.IsNanWord _))

instance (issues : List KnownIssue) : Decidable (r.IsAccepted spec t row issues) :=
  inferInstanceAs (Decidable (∃ k ∈ issues, _))

end RangeCheck

namespace DataCheck

open RangeCheck

variable {known : KnownIssues} {issues : List KnownIssue} {r : RangeCheck} {spec : EntityTable}
  {t : Table} {row : Row}

/-- What is said about a row, and when: its value is not within the bound, and not accepted. -/
theorem rowNotice?_eq_some_iff {notice : Notice} :
    rowNotice? known r spec t row = some notice ↔
      ∃ v, cellNumber? (r.valueCell t row) = some v ∧ v.le r.max = false ∧
        known.covers r.file (dateCell spec t row) (entityCell spec t row) r.column = false ∧
        notice = r.notice (dateCell spec t row) (entityCell spec t row) v := by
  simp only [rowNotice?, valueCell, dateCell, entityCell, Option.bind_eq_bind,
    Option.bind_eq_some_iff]
  refine exists_congr fun v => and_congr_right fun _ => ?_
  cases v.le r.max <;>
    cases known.covers r.file (row.cell (spec.periodColumn.bind t.column?))
      (row.cell (t.column? spec.entityColumn)) r.column <;> simp [eq_comm]

/-- Something is said about a row when its value is above the bound or the word for no number, and not
accepted. -/
theorem isSome_rowNotice?_iff (hmax : r.max ≠ .nan) :
    (rowNotice? (KnownIssues.ofList issues) r spec t row).isSome = true ↔
      (r.IsAbove t row ∨ r.SaysNan t row) ∧ ¬r.IsAccepted spec t row issues := by
  have haccepted : (KnownIssues.ofList issues).covers r.file (dateCell spec t row)
      (entityCell spec t row) r.column = false ↔ ¬r.IsAccepted spec t row issues := by
    rw [← Bool.not_eq_true, KnownIssues.covers_ofList_iff, IsAccepted]
  have hnan : r.SaysNan t row ↔ cellNumber? (r.valueCell t row) = some .nan :=
    Binary64.ofText?_eq_some_nan_iff.symm
  simp only [Option.isSome_iff_exists, rowNotice?_eq_some_iff, haccepted,
    Binary64.le_eq_false_iff hmax]
  constructor
  · rintro ⟨_, v, hv, rfl | habove, hnot, -⟩
    · exact ⟨.inr (hnan.mpr hv), hnot⟩
    · exact ⟨.inl ⟨v, hv, habove⟩, hnot⟩
  · rintro ⟨⟨v, hv, habove⟩ | hsays, hnot⟩
    · exact ⟨_, v, hv, .inr habove, hnot, rfl⟩
    · exact ⟨_, .nan, hnan.mp hsays, .inl rfl, hnot, rfl⟩

/-- What `filterMap` makes of a list it makes one by one of the elements that it does not drop. -/
theorem forall₂_filterMap {α β : Type} (f : α → Option β) (as : List α) :
    List.Forall₂ (fun a b => f a = some b) (as.filter fun a => (f a).isSome) (as.filterMap f) := by
  induction as with
  | nil => exact .nil
  | cons a as ih =>
      cases ha : f a with
      | none => rwa [List.filterMap_cons_none ha, List.filter_cons_of_neg (by simp [ha])]
      | some b =>
          rw [List.filterMap_cons_some ha, List.filter_cons_of_pos (by simp [ha])]
          exact .cons ha ih

variable {set : DataSet} {d : DataTables}

/-- The findings about one bound, when the file is there and a table of entities. -/
theorem forall₂_rangeFindings (issues : List KnownIssue) (hmax : r.max ≠ .nan)
    (hspec : d.entityTable? r.file = some spec) (ht : set.table? r.file = some t) :
    List.Forall₂ (fun row f => r.Reports spec t row set f)
      (t.rows.filter fun row =>
        (r.IsAbove t row ∨ r.SaysNan t row) ∧ ¬r.IsAccepted spec t row issues)
      (rangeFindings (KnownIssues.ofList issues) d set r) := by
  have hrows : (t.rows.filter fun row =>
        (r.IsAbove t row ∨ r.SaysNan t row) ∧ ¬r.IsAccepted spec t row issues) =
      t.rows.filter fun row => (rowNotice? (KnownIssues.ofList issues) r spec t row).isSome := by
    refine List.filter_congr fun row _ => ?_
    rw [Bool.eq_iff_iff, decide_eq_true_eq, isSome_rowNotice?_iff hmax]
  rw [rangeFindings, ht, hspec, hrows, List.forall₂_map_right_iff]
  refine (forall₂_filterMap _ t.rows).imp ?_
  intro row notice hnotice
  obtain ⟨v, hv, -, -, rfl⟩ := rowNotice?_eq_some_iff.mp hnotice
  exact ⟨v, hv, rfl⟩

/-- The word for no number is not above anything. -/
theorem not_isAbove_of_saysNan (h : r.SaysNan t row) : ¬r.IsAbove t row := by
  rintro ⟨v, hv, habove⟩
  have hnan : cellNumber? (r.valueCell t row) = some .nan := Binary64.ofText?_eq_some_nan_iff.mpr h
  obtain rfl : v = .nan := Option.some.inj ((Option.mem_def.mp hv).symm.trans hnan)
  exact (Binary64.exceeds_iff.mp habove).1 rfl

/-- The findings about a bound are those of the values above it exactly when the rows with the word for
no number are all accepted. -/
theorem forall₂_isAbove_iff (hmax : r.max ≠ .nan) (hspec : d.entityTable? r.file = some spec)
    (ht : set.table? r.file = some t) :
    List.Forall₂ (fun row f => r.Reports spec t row set f)
        (t.rows.filter fun row => r.IsAbove t row ∧ ¬r.IsAccepted spec t row issues)
        (rangeFindings (KnownIssues.ofList issues) d set r) ↔
      ∀ row ∈ t.rows, r.SaysNan t row → r.IsAccepted spec t row issues := by
  have hfound := forall₂_rangeFindings issues hmax hspec ht
  constructor
  · intro habove row hrow hsays
    by_contra hnot
    have hsub : (t.rows.filter fun row => r.IsAbove t row ∧ ¬r.IsAccepted spec t row issues).Sublist
        (t.rows.filter fun row =>
          (r.IsAbove t row ∨ r.SaysNan t row) ∧ ¬r.IsAccepted spec t row issues) := by
      refine List.monotone_filter_right t.rows fun row h => ?_
      rw [decide_eq_true_eq] at h ⊢
      exact ⟨.inl h.1, h.2⟩
    have hsame := hsub.eq_of_length (habove.length_eq.trans hfound.length_eq.symm)
    have hmem : row ∈ t.rows.filter fun row =>
        (r.IsAbove t row ∨ r.SaysNan t row) ∧ ¬r.IsAccepted spec t row issues := by
      rw [List.mem_filter, decide_eq_true_eq]
      exact ⟨hrow, .inr hsays, hnot⟩
    rw [← hsame, List.mem_filter, decide_eq_true_eq] at hmem
    exact not_isAbove_of_saysNan hsays hmem.2.1
  · intro haccepted
    have hrows : (t.rows.filter fun row => r.IsAbove t row ∧ ¬r.IsAccepted spec t row issues) =
        t.rows.filter fun row =>
          (r.IsAbove t row ∨ r.SaysNan t row) ∧ ¬r.IsAccepted spec t row issues := by
      refine List.filter_congr fun row hrow => ?_
      rw [decide_eq_decide, and_congr_left_iff]
      intro hnot
      exact (or_iff_left fun hsays => hnot (haccepted row hrow hsays)).symm
    rwa [hrows]

/-- A row whose cell is blank or not there is neither above the bound nor does it say anything. -/
theorem not_of_isBlankCell (h : isBlankCell (r.valueCell t row) = true) :
    ¬r.IsAbove t row ∧ ¬r.SaysNan t row := by
  have hnone := cellNumber?_of_isBlankCell h
  constructor
  · rintro ⟨v, hv, -⟩
    rw [hnone] at hv
    cases hv
  · intro hsays
    have hnan : cellNumber? (r.valueCell t row) = some .nan :=
      Binary64.ofText?_eq_some_nan_iff.mpr hsays
    rw [hnone] at hnan
    cases hnan

/-- **The rows that are reported.** The check of single values goes through the bounds in their order.
For a bound that is a number, on a file that is there and a table of entities, it gives one finding for
each row, in the order of the rows, whose value is a number greater than the bound, or the word for no
number, and is not accepted by a known issue; it gives no others. So the rows that are reported are
those above the bound exactly if each row with the word for no number is accepted. A row whose cell is
blank or not there is never reported. -/
theorem ranges_exact {tables : RuleTables} {checker : Checker}
    (h : Checker.ofTables tables = .ok checker) (set : DataSet) :
    ∃ found : RangeCheck → List Finding,
      ranges checker.known tables.data set = tables.data.ranges.flatMap found ∧
      ∀ r ∈ tables.data.ranges, r.max ≠ .nan →
        ∀ spec t, tables.data.entityTable? r.file = some spec → set.table? r.file = some t →
          List.Forall₂ (fun row f => r.Reports spec t row set f)
            (t.rows.filter fun row => (r.IsAbove t row ∨ r.SaysNan t row) ∧
              ¬r.IsAccepted spec t row tables.knownIssues) (found r) ∧
          (List.Forall₂ (fun row f => r.Reports spec t row set f)
            (t.rows.filter fun row => r.IsAbove t row ∧
              ¬r.IsAccepted spec t row tables.knownIssues) (found r) ↔
            ∀ row ∈ t.rows, r.SaysNan t row → r.IsAccepted spec t row tables.knownIssues) ∧
          ∀ row, isBlankCell (r.valueCell t row) = true →
            ¬r.IsAbove t row ∧ ¬r.SaysNan t row := by
  obtain ⟨-, hknown⟩ := Checker.eq_of_ofTables h
  refine ⟨rangeFindings checker.known tables.data set, rfl, ?_⟩
  intro r _ hmax spec t hspec ht
  rw [hknown]
  exact ⟨forall₂_rangeFindings _ hmax hspec ht, forall₂_isAbove_iff hmax hspec ht,
    fun row => not_of_isBlankCell⟩

open RuleTables.Builtin in
/-- The built-in bound of 110 and rows of every kind: above it, at it, without a number, with the word
for none, accepted, infinite, and too short. -/
theorem ranges_exact_mixed :
    let tables := RuleTables.unmarked
    let r : RangeCheck := ⟨"DATA_UTIL_OUTLIER", "extracted.csv", utilizationColumn,
      "fleet utilization", "%", Binary64.ofNat 110, .warn⟩
    let spec := monthly "extracted.csv" "extracted" .primary
    let t : Table := ⟨["Date", "Depot", utilizationColumn],
      [["May 2023", "Nigadi", "110.5"], ["May 2023", "Katraj", "110"],
        ["May 2023", "Swargate", "n/a"], ["Jun 2023", "Nigadi", " -nAn"],
        ["Dec 2023", "Nigadi", "116.67"], ["Jun 2023", "Katraj", "Inf "],
        ["Jun 2023", "Swargate", "-inf"], ["Jul 2023", "Nigadi"]]⟩
    let set : DataSet := ⟨⟨[]⟩, ⟨[]⟩, [("extracted.csv", .table t)]⟩
    Checker.ofTables tables = .ok Checker.unmarked ∧ r ∈ tables.data.ranges ∧ r.max ≠ .nan ∧
      tables.data.entityTable? r.file = some spec ∧ set.table? r.file = some t ∧
      List.Forall₂ (fun row f => r.Reports spec t row set f)
        [["May 2023", "Nigadi", "110.5"], ["Jun 2023", "Nigadi", " -nAn"],
          ["Jun 2023", "Katraj", "Inf "]]
        (ranges Checker.unmarked.known tables.data set) := by
  intro tables r spec t set
  have hr : r ∈ tables.data.ranges := List.mem_singleton_self r
  have hmax : r.max ≠ .nan := by decide +kernel
  have hspec : tables.data.entityTable? r.file = some spec := by decide +kernel
  have ht : set.table? r.file = some t := by decide +kernel
  obtain ⟨found, hranges, hfound⟩ := ranges_exact Checker.ofTables_unmarked set
  have hrows : (t.rows.filter fun row => (r.IsAbove t row ∨ r.SaysNan t row) ∧
      ¬r.IsAccepted spec t row tables.knownIssues) =
      [["May 2023", "Nigadi", "110.5"], ["Jun 2023", "Nigadi", " -nAn"],
        ["Jun 2023", "Katraj", "Inf "]] := by
    decide +kernel
  have hone : tables.data.ranges.flatMap found = found r := List.flatMap_singleton found r
  have hreports := (hfound r hr hmax spec t hspec ht).1
  rw [hrows, ← hone, ← hranges] at hreports
  exact ⟨Checker.ofTables_unmarked, hr, hmax, hspec, ht, hreports⟩

open RuleTables.Builtin in
/-- A row with the word for no number: no value is above the built-in bound, but what is reported are
not the values above it. -/
theorem ranges_saysNan :
    let r : RangeCheck := ⟨"DATA_UTIL_OUTLIER", "extracted.csv", utilizationColumn,
      "fleet utilization", "%", Binary64.ofNat 110, .warn⟩
    let spec := monthly "extracted.csv" "extracted" .primary
    let t : Table := ⟨["Date", "Depot", utilizationColumn], [["May 2023", "Nigadi", "NaN"]]⟩
    let set : DataSet := ⟨⟨[]⟩, ⟨[]⟩, [("extracted.csv", .table t)]⟩
    DataTables.builtin.ranges = [r] ∧ r.max ≠ .nan ∧
      DataTables.builtin.entityTable? r.file = some spec ∧ set.table? r.file = some t ∧
      (∀ row ∈ t.rows, ¬r.IsAbove t row) ∧
      ¬List.Forall₂ (fun row f => r.Reports spec t row set f)
        (t.rows.filter fun row => r.IsAbove t row ∧
          ¬r.IsAccepted spec t row RuleTables.builtin.knownIssues)
        (ranges (KnownIssues.ofList RuleTables.builtin.knownIssues) DataTables.builtin set) := by
  intro r spec t set
  have hone : DataTables.builtin.ranges = [r] := rfl
  have hmax : r.max ≠ .nan := by decide +kernel
  have hspec : DataTables.builtin.entityTable? r.file = some spec := by decide +kernel
  have ht : set.table? r.file = some t := by decide +kernel
  have hbelow : ∀ row ∈ t.rows, ¬r.IsAbove t row := by decide +kernel
  refine ⟨hone, hmax, hspec, ht, hbelow, fun habove => ?_⟩
  rw [ranges, hone, List.flatMap_singleton, forall₂_isAbove_iff hmax hspec ht] at habove
  have haccepted := habove ["May 2023", "Nigadi", "NaN"] List.mem_cons_self (by decide +kernel)
  have hnot : ¬r.IsAccepted spec t ["May 2023", "Nigadi", "NaN"] RuleTables.builtin.knownIssues := by
    decide +kernel
  exact hnot haccepted

end DataCheck

end PageLint
