import Mathlib.Tactic.IntervalCases
import PageLint.Gap

/-!
# The calendar

Days of the Gregorian calendar, numbered without gaps. The number of a day (`Day.ordinal`) comes
from a closed formula over years that begin in March, so that the leap day is the last day of its
year; the formula does not speak of the lengths of months. That `Month.days` fits it is the
statement that the day after the last day of a month is the first day of the next month
(`Month.isLastDay_iff`), for leap Februaries and for December as for every other month.

## Main results

* `Month.offset_next`: the months follow each other without gap or overlap.
* `Month.isLastDay_iff`: the last day of a month, as the calendar has it, is `Month.last`.
* `Month.first_le_last_iff`: the first day of a month is after the last day of another one exactly
  when the months are inverted.
-/

namespace PageLint

namespace Month

/-- The month after this one. -/
def next (m : Month) : Month :=
  if h : m.index.val < 11 then ⟨m.year, m.index.val + 1, by omega⟩ else ⟨m.year + 1, 0⟩

/-- The next month is one month later. -/
theorem rank_next (m : Month) : m.next.rank = m.rank + 1 := by
  have hlt := m.index.isLt
  rw [next]
  split
  · simp only [rank]; omega
  · simp only [rank, Fin.val_zero]; omega

/-- A month has at least 28 days. -/
theorem le_days (m : Month) : 28 ≤ m.days := by
  rw [days]
  split
  · split <;> omega
  all_goals omega

/-- The number of months since March. -/
def monthsSinceMarch (m : Month) : Nat :=
  if m.index.val < 2 then m.index.val + 10 else m.index.val - 2

/-- The year that began in March. The count starts a full cycle of 400 years before the year zero,
so that the first two months of that year have one, too. -/
def marchYear (m : Month) : Nat := if m.index.val < 2 then m.year + 399 else m.year + 400

/-- The number of leap days in the years up to `n`. -/
def leapDays (n : Nat) : Nat := n / 4 - n / 100 + n / 400

/-- A year adds a leap day exactly when it is a leap year. -/
theorem leapDays_succ (n : Nat) :
    leapDays (n + 1) = leapDays n + if isLeap (n + 1) then 1 else 0 := by
  have hle : n / 100 ≤ n / 4 := Nat.div_le_div_left (by omega) (by omega)
  have hleap : isLeap (n + 1) = true ↔ 4 ∣ n + 1 ∧ (¬100 ∣ n + 1 ∨ 400 ∣ n + 1) := by
    simp [isLeap, Nat.dvd_iff_mod_eq_zero]
  rw [leapDays, leapDays, Nat.succ_div, Nat.succ_div, Nat.succ_div]
  by_cases h4 : 4 ∣ n + 1
  · by_cases h100 : 100 ∣ n + 1
    · by_cases h400 : 400 ∣ n + 1
      · rw [if_pos h4, if_pos h100, if_pos h400, if_pos (hleap.mpr ⟨h4, Or.inr h400⟩)]
        omega
      · rw [if_pos h4, if_pos h100, if_neg h400, if_neg (by rw [hleap]; omega)]
        omega
    · rw [if_pos h4, if_neg h100, if_neg (by omega), if_pos (hleap.mpr ⟨h4, Or.inl h100⟩)]
      omega
  · rw [if_neg h4, if_neg (by omega), if_neg (by omega), if_neg (by rw [hleap]; omega)]
    omega

/-- The calendar repeats itself after 400 years. -/
theorem isLeap_add_cycle (y : Nat) : isLeap (y + 400) = isLeap y := by
  have h4 : (y + 400) % 4 = y % 4 := by omega
  have h100 : (y + 400) % 100 = y % 100 := by omega
  have h400 : (y + 400) % 400 = y % 400 := by omega
  rw [isLeap, isLeap, h4, h100, h400]

/-- The number of days before the month. -/
def offset (m : Month) : Nat :=
  365 * m.marchYear + leapDays m.marchYear + (153 * m.monthsSinceMarch + 2) / 5

/-- **Months follow each other** without gap or overlap. Only February needs the rule about leap
years. -/
theorem offset_next (m : Month) : m.next.offset = m.offset + m.days := by
  obtain ⟨y, i, hi⟩ := m
  have hleap := leapDays_succ (y + 399)
  rw [show y + 399 + 1 = y + 400 from rfl, isLeap_add_cycle] at hleap
  by_cases hdec : i < 11
  · rw [next, dif_pos hdec]
    simp only [offset, marchYear, monthsSinceMarch, days]
    interval_cases i
    case «1» =>
      simp only [Nat.reduceAdd, Nat.reduceLT, ↓reduceIte, hleap]
      split <;> omega
    all_goals simp only [Nat.reduceAdd, Nat.reduceSub, Nat.reduceLT, ↓reduceIte]
  · rw [next, dif_neg hdec]
    obtain rfl : i = 11 := by omega
    simp only [offset, marchYear, monthsSinceMarch, days, Fin.val_zero, Nat.reduceLT, ↓reduceIte]

end Month

/-- A day of the calendar. -/
structure Day where
  /-- The month of the day. -/
  month : Month
  /-- The number of the day within its month, counted from one. -/
  number : Nat
  /-- There is no day zero. -/
  one_le : 1 ≤ number
  /-- The month has that many days. -/
  le_days : number ≤ month.days
  deriving DecidableEq

namespace Day

/-- The day as `YYYY-MM-DD`. -/
def iso (d : Day) : String := d.month.iso d.number

/-- The **number of the day**, in a count without gaps. -/
def ordinal (d : Day) : Nat := d.month.offset + d.number

/-- Days are in the order of time. -/
instance : LE Day := ⟨fun d e => d.ordinal ≤ e.ordinal⟩

/-- Days are in the order of time. -/
instance : LT Day := ⟨fun d e => d.ordinal < e.ordinal⟩

/-- Days are in the order of their ordinals. -/
theorem le_def {d e : Day} : d ≤ e ↔ d.ordinal ≤ e.ordinal := Iff.rfl

/-- A day is before those with greater ordinals. -/
theorem lt_def {d e : Day} : d < e ↔ d.ordinal < e.ordinal := Iff.rfl

/-- Within a month the days are told apart by their numbers. -/
theorem eq_of_ordinal_eq {d e : Day} (hm : d.month = e.month) (h : d.ordinal = e.ordinal) :
    d = e := by
  obtain ⟨m, a, ha, ha'⟩ := d
  obtain ⟨m', b, hb, hb'⟩ := e
  obtain rfl : m = m' := hm
  obtain rfl : a = b := Nat.add_left_cancel h
  rfl

end Day

namespace Month

/-- The first day of the month. -/
def first (m : Month) : Day := ⟨m, 1, by omega, by have := m.le_days; omega⟩

/-- The last day of the month. -/
def last (m : Month) : Day := ⟨m, m.days, by have := m.le_days; omega, by omega⟩

/-- The first day of a month is the day behind all months before it. -/
@[simp] theorem ordinal_first (m : Month) : m.first.ordinal = m.offset + 1 := rfl

/-- The last day of a month has all its days up to it. -/
@[simp] theorem ordinal_last (m : Month) : m.last.ordinal = m.offset + m.days := rfl

/-- Is `d` the **last calendar day** of the month? It lies in the month, and the day after it is
the first day of the next month. -/
def IsLastDay (m : Month) (d : Day) : Prop := d.month = m ∧ d.ordinal + 1 = m.next.first.ordinal

/-- `Month.last` is the last day that the calendar has in a month. -/
theorem isLastDay_iff {m : Month} {d : Day} : m.IsLastDay d ↔ d = m.last := by
  have hnext := m.offset_next
  constructor
  · rintro ⟨hm, h⟩
    refine Day.eq_of_ordinal_eq hm ?_
    rw [ordinal_first] at h
    rw [ordinal_last]
    omega
  · rintro rfl
    refine ⟨rfl, ?_⟩
    rw [ordinal_last, ordinal_first, hnext]

example : (last ⟨2024, 1⟩).iso = "2024-02-29" := by decide

/-- All days of a month are before a later month. The months between are walked through one by
one. -/
theorem offset_add_days_le {a b : Month} (h : a < b) : a.offset + a.days ≤ b.offset := by
  obtain ⟨n, hn⟩ : ∃ n, b.rank = a.rank + 1 + n := Nat.exists_eq_add_of_le h
  induction n generalizing a with
  | zero =>
      have hb : b = a.next := rank_inj (hn.trans a.rank_next.symm)
      rw [hb, offset_next]
  | succ n ih =>
      have hrank := a.rank_next
      have hlater := ih (show a.next.rank < b.rank by omega) (by omega)
      have hnext := a.offset_next
      omega

/-- Two months are in order, inverted or the same. -/
theorem lt_trichotomy (a b : Month) : a < b ∨ a = b ∨ b < a := by
  rcases Nat.lt_trichotomy a.rank b.rank with h | h | h
  · exact Or.inl h
  · exact Or.inr (Or.inl (rank_inj h))
  · exact Or.inr (Or.inr h)

end Month

/-- The days of a month are before the days of a later month. -/
theorem Day.lt_of_month_lt {d e : Day} (h : d.month < e.month) : d < e := by
  have hmonths := Month.offset_add_days_le h
  have hd := d.le_days
  have he := e.one_le
  rw [lt_def, ordinal, ordinal]
  omega

namespace Month

/-- Days that are chosen one from each month are in the order of their months. -/
theorem day_lt_day_iff {f : Month → Day} (hf : ∀ m, (f m).month = m) {a b : Month} :
    f a < f b ↔ a < b := by
  have hmono : ∀ {a b : Month}, a < b → f a < f b := by
    intro a b hab
    refine Day.lt_of_month_lt ?_
    rwa [hf, hf]
  refine ⟨fun h => ?_, hmono⟩
  rcases lt_trichotomy a b with hab | rfl | hba
  · exact hab
  · exact absurd h (Nat.lt_irrefl _)
  · exact absurd h (Nat.lt_asymm (hmono hba))

/-- First days are in the order of their months. -/
theorem first_lt_first_iff {a b : Month} : a.first < b.first ↔ a < b :=
  day_lt_day_iff fun _ => rfl

/-- Last days are in the order of their months. -/
theorem last_lt_last_iff {a b : Month} : a.last < b.last ↔ a < b :=
  day_lt_day_iff fun _ => rfl

/-- The first day of a month is not after the last day of another one exactly when the months are
not inverted. -/
theorem first_le_last_iff {a b : Month} : a.first ≤ b.last ↔ ¬b < a := by
  constructor
  · intro h hba
    have hlt : b.last < a.first := Day.lt_of_month_lt hba
    exact absurd h (Nat.not_le_of_lt hlt)
  · intro h
    rcases lt_trichotomy a b with hab | rfl | hba
    · have hlt : a.first < b.last := Day.lt_of_month_lt hab
      exact Nat.le_of_lt hlt
    · rw [Day.le_def, ordinal_first, ordinal_last]
      have hdays := a.le_days
      omega
    · exact absurd hba h

end Month

end PageLint
