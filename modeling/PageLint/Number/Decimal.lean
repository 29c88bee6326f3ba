import PageLint.Number.Binary64

/-!
# Numbers in decimal notation

The two ways in which numbers are printed.

* `Binary64.shortest`: the fewest digits that read back as the same number, never with an exponent.
* `Binary64.grouped`: the nearest integer with a comma between groups of three digits.
-/

namespace PageLint.Binary64

/-- The number of decimal digits of `n`. -/
def digitCount (n : Nat) : Nat := (Nat.toDigits 10 n).length

/-- A power of ten that makes the digits of every positive number whole. -/
def scale : Nat := Nat.pow 10 400

/-- Four times the ends of the interval of reals that round to `units`, and whether they belong to
it. -/
def interval (units : Nat) : Nat × Nat × Bool :=
  let step := spacing units
  let below := if units = Nat.pow 2 52 * step ∧ 1 < step then step else 2 * step
  (4 * units - below, 4 * units + 2 * step, units / step % 2 = 0)

/-- Is `digits * grid / scale` in the interval of reals that round to `units`? -/
def inInterval (units grid digits : Nat) : Bool :=
  let (low, high, closed) := interval units
  let x := 4 * digits * grid * one
  if closed then low * scale ≤ x && x ≤ high * scale else low * scale < x && x < high * scale

/-- The decimal with `count` digits nearest to `units` that reads back as `units`, if there is one:
the digits, and the grid they count in. -/
def withDigits? (units count : Nat) : Option (Nat × Nat) :=
  let point := digitCount (units * scale / one)
  let grid := Nat.pow 10 (point - count)
  let lower := units * scale / (one * grid)
  let twice := 2 * (units * scale % (one * grid))
  match inInterval units grid lower, inInterval units grid (lower + 1) with
  | true, true => some (if twice < one * grid then lower else lower + 1, grid)
  | true, false => some (lower, grid)
  | false, true => some (lower + 1, grid)
  | false, false => none

/-- The shortest decimal that reads back as `units`: its digits and the grid they count in. -/
def shortestDecimal (units : Nat) : Nat × Nat :=
  ((List.range 17).findSome? fun i => withDigits? units (i + 1)).getD (0, 1)

/-- The decimal notation of `n / scale`. -/
def positional (n : Nat) : Text :=
  let whole := Nat.toDigits 10 (n / scale)
  let digits := Nat.toDigits 10 (n % scale)
  let fraction := List.replicate (400 - digits.length) '0' ++ digits
  match Text.dropEndWhile (· == '0') fraction with
  | [] => whole
  | fraction => whole ++ '.' :: fraction

/-- The number with the fewest digits that read back as it, without an exponent. -/
def shortest : Binary64 → Text
  | nan => "NaN".toList
  | infinity negative => if negative then "-inf".toList else "inf".toList
  | finite negative units =>
    let (digits, grid) := if units = 0 then (0, 1) else shortestDecimal units
    (if negative then ['-'] else []) ++ positional (digits * grid)

/-- Digits with a comma before each group of three that is not the first. -/
def withCommas : Text → Text
  | [] => []
  | c :: t => if t.length % 3 = 0 ∧ t ≠ [] then c :: ',' :: withCommas t else c :: withCommas t

/-- The nearest integer, ties to even, with a comma between groups of three digits. -/
def grouped (x : Binary64) : Text :=
  let magnitude :=
    match x with
    | nan => "NaN".toList
    | infinity _ => "inf".toList
    | finite _ units => Nat.toDigits 10 (roundDiv units one)
  let text := withCommas magnitude
  if x.isNegative ∧ magnitude ≠ ['0'] then '-' :: text else text

end PageLint.Binary64
