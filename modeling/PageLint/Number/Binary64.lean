import PageLint.Text.Basic

/-!
# Binary numbers of 64 bits

Floating-point numbers as the measurements of data files are held in: a sign, 53 significant bits,
exponents down to `2 ^ -1074`, infinities and a value that is no number.

Every finite value is a whole multiple of the least positive one, so a finite number is a sign and a
natural number of such units. Sums and comparisons are then exact sums and comparisons of integers,
followed for a sum by one rounding to the nearest representable number, ties to the even one.

* `Binary64.ofRatio`: the number nearest to a fraction.
* `Binary64.add`, `Binary64.le`, `Binary64.isNegative`: arithmetic and order.
* `Binary64.ofText?`: reads a number in decimal notation.
-/

namespace PageLint

/-- A floating-point number. -/
inductive Binary64 where
  /-- The value that is no number. -/
  | nan
  /-- Beyond all finite numbers. -/
  | infinity (negative : Bool)
  /-- A multiple of `2 ^ -1074`. -/
  | finite (negative : Bool) (units : Nat)
  deriving DecidableEq, Repr

namespace Binary64

/-- The number of units in one: `2 ^ 1074`. -/
def one : Nat := Nat.pow 2 1074

/-- The first count of units that is too large for a finite number: `2 ^ 1024` in units. -/
def limit : Nat := Nat.pow 2 2098

/-- The integer nearest to `num / den`, of two equally near ones the even one. -/
def roundDiv (num den : Nat) : Nat :=
  let q := num / den
  let twice := 2 * (num % den)
  if twice < den ∨ (twice = den ∧ q % 2 = 0) then q else q + 1

/-- The distance between neighbouring numbers near `units`: a power of two that leaves 53
significant bits. -/
def spacing (units : Nat) : Nat := Nat.pow 2 (Nat.log2 units - 52)

/-- The finite or infinite number nearest to `num / den` units. -/
def ofUnits (negative : Bool) (num den : Nat) : Binary64 :=
  let step := spacing (num / den)
  let units := roundDiv num (den * step) * step
  if units < limit then finite negative units else infinity negative

/-- The number nearest to the fraction `num / den`. -/
def ofRatio (negative : Bool) (num den : Nat) : Binary64 := ofUnits negative (num * one) den

/-- The number nearest to `digits * 10 ^ exponent`. Exponents far out of range are not expanded. -/
def ofDecimal (negative : Bool) (digits : Nat) (exponent : Int) : Binary64 :=
  let size : Int := (Nat.toDigits 10 digits).length + exponent
  if digits = 0 ∨ size < -400 then finite negative 0
  else if 400 < size then infinity negative
  else if 0 ≤ exponent then ofRatio negative (digits * Nat.pow 10 exponent.toNat) 1
  else ofRatio negative digits (Nat.pow 10 (-exponent).toNat)

/-- The number nearest to a natural number. -/
def ofNat (n : Nat) : Binary64 := ofDecimal false n 0

/-- The number nearest to an integer. -/
def ofInt (n : Int) : Binary64 := ofDecimal (n < 0) n.natAbs 0

/-- Zero. -/
def zero : Binary64 := finite false 0

/-- The signed count of units of a finite number. -/
def signed (negative : Bool) (units : Nat) : Int := if negative then -(units : Int) else units

/-- Is the first number at most the second? Nothing compares with `nan`. -/
def le : Binary64 → Binary64 → Bool
  | nan, _ | _, nan => false
  | infinity true, _ => true
  | _, infinity false => true
  | infinity false, _ => false
  | _, infinity true => false
  | finite n u, finite m v => signed n u ≤ signed m v

/-- Is the number below zero? -/
def isNegative : Binary64 → Bool
  | nan => false
  | infinity negative => negative
  | finite negative units => negative && units != 0

/-- The sum of two numbers. -/
def add : Binary64 → Binary64 → Binary64
  | nan, _ | _, nan => nan
  | infinity n, infinity m => if n = m then infinity n else nan
  | infinity n, _ | _, infinity n => infinity n
  | finite n u, finite m v =>
    let sum := signed n u + signed m v
    if sum = 0 then finite (n && m) 0 else ofUnits (sum < 0) sum.natAbs 1

/-- The sum of a list of numbers, from the left. -/
def sum (xs : List Binary64) : Binary64 := xs.foldl add zero

/-! ### Reading -/

/-- Reads digits: their value as a number, how many there are, and what follows. -/
def readDigits : (value count : Nat) → Text → Nat × Nat × Text
  | value, count, [] => (value, count, [])
  | value, count, c :: t =>
    if c.isDigit then readDigits (value * 10 + (c.toNat - '0'.toNat)) (count + 1) t
    else (value, count, c :: t)

/-- Takes an optional sign off the text: is it a minus, and what follows. -/
def readSign : Text → Bool × Text
  | '-' :: t => (true, t)
  | '+' :: t => (false, t)
  | t => (false, t)

/-- Reads an exponent up to the end of the text. No exponent is zero. -/
def readExponent? : Text → Option Int
  | [] => some 0
  | c :: t =>
    if c = 'e' ∨ c = 'E' then
      let (negative, t) := readSign t
      match readDigits 0 0 t with
      | (_, 0, _) => none
      | (value, _, []) => some (if negative then -(value : Int) else value)
      | _ => none
    else none

/-- Reads a whole text as a number: an optional sign, then digits with an optional point and an
optional exponent, or the word for an infinity or for no number in any case. -/
def ofText? (t : Text) : Option Binary64 :=
  let (negative, t) := readSign t
  let word := Text.str (t.map Char.toLower)
  if word == "nan" then some nan
  else if word == "inf" || word == "infinity" then some (infinity negative)
  else
    let (whole, wholeCount, rest) := readDigits 0 0 t
    match rest with
    | '.' :: rest =>
      let (digits, count, rest) := readDigits whole wholeCount rest
      if count = 0 then none
      else (readExponent? rest).map fun e => ofDecimal negative digits (e - (count - wholeCount : Nat))
    | rest =>
      if wholeCount = 0 then none
      else (readExponent? rest).map fun e => ofDecimal negative whole e

end Binary64

end PageLint
