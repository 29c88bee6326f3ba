import PageLint.Text.CharClass

/-!
# Months

Calendar months of the Gregorian calendar, their first and last days, and the form `Mon YYYY` in
which they are written.

* `Month.ofText?`: reads `Mon YYYY`: an English month name of three letters in any case, blanks, a
  year of four digits.
* `Month.label`: writes it.
* `Month.firstDay`, `Month.lastDay`: the days of a month's ends as `YYYY-MM-DD`.
-/

namespace PageLint

/-- A month of a year. -/
structure Month where
  /-- The year. -/
  year : Nat
  /-- The month of the year, counted from zero. -/
  index : Fin 12
  deriving DecidableEq, Repr

namespace Month

/-- The English names, three letters each. -/
def names : List String :=
  ["Jan", "Feb", "Mar", "Apr", "May", "Jun", "Jul", "Aug", "Sep", "Oct", "Nov", "Dec"]

/-- The name of the month of the year. -/
def name (m : Month) : String := names[m.index.val]

/-- The number of months since the beginning of year zero. -/
def rank (m : Month) : Nat := m.year * 12 + m.index.val

/-- Different months have different ranks. -/
theorem rank_inj {a b : Month} (h : a.rank = b.rank) : a = b := by
  obtain ⟨ya, ia⟩ := a
  obtain ⟨yb, ib⟩ := b
  simp only [rank] at h
  have hi : ia.val = ib.val := by omega
  have hy : ya = yb := by omega
  simp [hy, Fin.ext hi]

/-- Months are in the order of time. -/
instance : LT Month := ⟨fun a b => a.rank < b.rank⟩

instance : DecidableLT Month := fun a b => inferInstanceAs (Decidable (a.rank < b.rank))

/-- Years whose number is divisible by four are leap years, except full centuries that are not
divisible by four hundred. -/
def isLeap (year : Nat) : Bool := year % 4 == 0 && (year % 100 != 0 || year % 400 == 0)

/-- The number of days of the month. -/
def days (m : Month) : Nat :=
  match m.index.val with
  | 1 => if isLeap m.year then 29 else 28
  | 3 | 5 | 8 | 10 => 30
  | _ => 31

/-- A number in decimal digits, filled up to `width` with zeros in front. -/
def padded (width n : Nat) : String :=
  let digits := Nat.toDigits 10 n
  String.ofList (List.replicate (width - digits.length) '0' ++ digits)

/-- A day of the month as `YYYY-MM-DD`. -/
def iso (m : Month) (day : Nat) : String :=
  padded 4 m.year ++ "-" ++ padded 2 (m.index.val + 1) ++ "-" ++ padded 2 day

/-- The first day of the month as `YYYY-MM-DD`. -/
def firstDay (m : Month) : String := m.iso 1

/-- The last day of the month as `YYYY-MM-DD`. -/
def lastDay (m : Month) : String := m.iso m.days

/-- The month as `Mon YYYY`. -/
def label (m : Month) : String := m.name ++ " " ++ padded 4 m.year

/-- The month of the year with this name, in any case. -/
def indexOf? (t : Text) : Option (Fin 12) :=
  (List.finRange 12).find? fun i => names[i.val].toList.map Char.toLower == t.map Char.toLower

/-- The number that is written in decimal digits. -/
def ofDigits (t : Text) : Nat := t.foldl (fun n c => n * 10 + (c.toNat - '0'.toNat)) 0

/-- Reads `Mon YYYY`, with blanks around it and between its parts. -/
def ofText? (t : Text) : Option Month :=
  match t.words with
  | [mon, year] =>
    if mon.length = 3 ∧ mon.all Char.isAlpha ∧ year.length = 4 ∧ year.all Char.isDigit then
      (indexOf? mon).map fun i => ⟨ofDigits year, i⟩
    else none
  | _ => none

end Month

end PageLint
