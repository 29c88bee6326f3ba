import PageLint.Value
import PageLint.Month

/-!
# Scalars of TOML

The values of TOML that hold no other values: strings in four forms, whole numbers in four bases,
floating-point numbers, flags, dates and times.

* `Toml.readString?`: reads a string in any of its forms.
* `Toml.readBare?`: reads any other scalar.
-/

namespace PageLint.Toml

/-- A character that may stand only as an escape: a control character other than the tab. -/
def isControl (c : Char) : Bool := (c.toNat < 32 && c != '\t') || c.toNat == 127

/-- A space or a tab. -/
def isBlank (c : Char) : Bool := c == ' ' || c == '\t'

/-! ### Strings -/

/-- Where the reading of a string with escapes stands. -/
inductive Escape where
  /-- Between characters. -/
  | none
  /-- Behind a backslash. -/
  | begun
  /-- In a code point, of which so many digits are left. -/
  | digits (left value : Nat)
  /-- Behind a backslash and blanks, in front of the end of a line. -/
  | lineEnd
  /-- Behind a backslash at the end of a line, in blanks that are passed over. -/
  | skipping
  deriving DecidableEq

/-- What a character behind a backslash stands for. -/
def escaped? : Char → Option Char
  | 'b' => some '\x08'
  | 't' => some '\t'
  | 'n' => some '\n'
  | 'f' => some '\x0c'
  | 'r' => some '\r'
  | 'e' => some '\x1b'
  | '"' => some '"'
  | '\\' => some '\\'
  | _ => none

/-- The number of digits of a code point that a character behind a backslash announces. -/
def codeLength? : Char → Option Nat
  | 'x' => some 2
  | 'u' => some 4
  | 'U' => some 8
  | _ => none

/-- The end of a string over several lines, behind three quotes: up to two more quotes belong to
it. -/
def closeLong (quote : Char) (t : Text) : Text × Text :=
  let more := (t.takeWhile (· == quote)).take 2
  (more, t.drop more.length)

/-- Reads a string with escapes, behind its opening quotes. -/
def readEscaped (long : Bool) (state : Escape) : Text → Option (Text × Text)
  | [] => none
  | c :: t =>
    let state := if state = .skipping ∧ !(isBlank c || c == '\n' || c == '\r') then .none else state
    match state with
    | .none =>
      if c = '"' then
        if !long then some ([], t)
        else if ['"', '"'].isPrefixOf t then some (closeLong '"' (t.drop 2))
        else (readEscaped long .none t).map fun (s, rest) => (c :: s, rest)
      else if c = '\\' then readEscaped long .begun t
      else if long && c == '\r' && t.head? == some '\n' then readEscaped long .none t
      else if isControl c && !(long && c == '\n') then none
      else (readEscaped long .none t).map fun (s, rest) => (c :: s, rest)
    | .begun =>
      match escaped? c, codeLength? c with
      | some e, _ => (readEscaped long .none t).map fun (s, rest) => (e :: s, rest)
      | none, some left => readEscaped long (.digits left 0) t
      | none, none =>
        if !long then none
        else if c = '\n' then readEscaped long .skipping t
        else if isBlank c || (c == '\r' && t.head? == some '\n') then readEscaped long .lineEnd t
        else none
    | .digits left value =>
      match Value.digit? 16 c with
      | none => none
      | some d =>
        let value := value * 16 + d
        if 1 < left then readEscaped long (.digits (left - 1) value) t
        else if value.isValidChar then
          (readEscaped long .none t).map fun (s, rest) => (Char.ofNat value :: s, rest)
        else none
    | .lineEnd =>
      if c = '\n' then readEscaped long .skipping t
      else if isBlank c || (c == '\r' && t.head? == some '\n') then readEscaped long .lineEnd t
      else none
    | .skipping => if c == '\r' && t.head? != some '\n' then none else readEscaped long .skipping t

/-- Reads a string without escapes, behind its opening quotes. -/
def readLiteral (long : Bool) : Text → Option (Text × Text)
  | [] => none
  | c :: t =>
    if c = '\'' then
      if !long then some ([], t)
      else if ['\'', '\''].isPrefixOf t then some (closeLong '\'' (t.drop 2))
      else (readLiteral long t).map fun (s, rest) => (c :: s, rest)
    else if long && c == '\r' && t.head? == some '\n' then readLiteral long t
    else if isControl c && !(long && c == '\n') then none
    else (readLiteral long t).map fun (s, rest) => (c :: s, rest)

/-- The text without a line end at its head. -/
def dropLineEnd : Text → Text
  | '\n' :: t => t
  | '\r' :: '\n' :: t => t
  | t => t

/-- Reads a string on one line. -/
def readShort? : Text → Option (Text × Text)
  | '"' :: t => readEscaped false .none t
  | '\'' :: t => readLiteral false t
  | _ => none

/-- Reads a string. -/
def readString? : Text → Option (Text × Text)
  | '"' :: '"' :: '"' :: t => readEscaped true .none (dropLineEnd t)
  | '\'' :: '\'' :: '\'' :: t => readLiteral true (dropLineEnd t)
  | t => readShort? t

/-! ### Numbers -/

/-- Digits without the underscores between them. -/
def ungroup? (base : Nat) (t : Text) : Option Text :=
  let groups := Text.splitOn '_' t
  if groups.all fun g => !g.isEmpty && g.all fun c => (Value.digit? base c).isSome then
    some groups.flatten
  else none

/-- A whole number. One beyond 64 bits is never asked for, and one beyond 128 bits is none. -/
def integer? (n : Int) : Option Value :=
  if -(Nat.pow 2 63 : Nat) ≤ n ∧ n < (Nat.pow 2 64 : Nat) then some (.integer n)
  else if -(Nat.pow 2 127 : Nat) ≤ n ∧ n < (Nat.pow 2 128 : Nat) then some .other
  else none

/-- Decimal digits that may be the whole part of a number: no needless zero in front. -/
def wholePart? (t : Text) : Option Text := do
  let digits ← ungroup? 10 t
  if 1 < digits.length ∧ digits.head? = some '0' then none else some digits

/-- The text up to the first character that satisfies `p`, and what follows that character. -/
def cutAt (p : Char → Bool) (t : Text) : Text × Option Text :=
  match t.dropWhile (!p ·) with
  | [] => (t, none)
  | _ :: rest => (t.takeWhile (!p ·), some rest)

/-- The number that an exponent stands for. -/
def exponent? (t : Text) : Option Int := do
  let (negative, digits) := Binary64.readSign t
  let n ← Value.ofDigits? 10 (← ungroup? 10 digits)
  return if negative then -(n : Int) else n

/-- A number in decimal notation without its sign. -/
def decimal? (negative : Bool) (t : Text) : Option Value := do
  let (mantissa, exponent) := cutAt (fun c => c == 'e' || c == 'E') t
  let (whole, fraction) := cutAt (· == '.') mantissa
  let digits ← wholePart? whole
  if fraction.isNone && exponent.isNone then
    let n ← Value.ofDigits? 10 digits
    integer? (if negative then -(n : Int) else n)
  else
    let places ← match fraction with
      | some f => ungroup? 10 f
      | none => some []
    let power ← match exponent with
      | some e => exponent? e
      | none => some 0
    let n ← Value.ofDigits? 10 (digits ++ places)
    let x := Binary64.ofDecimal negative n (power - places.length)
    if Value.isFinite x then some (.float x) else none

/-- A number. -/
def number? (t : Text) : Option Value :=
  match t with
  | '0' :: 'x' :: t => do integer? (← Value.ofDigits? 16 (← ungroup? 16 t))
  | '0' :: 'o' :: t => do integer? (← Value.ofDigits? 8 (← ungroup? 8 t))
  | '0' :: 'b' :: t => do integer? (← Value.ofDigits? 2 (← ungroup? 2 t))
  | t =>
    let (negative, t) := Binary64.readSign t
    if t = "inf".toList then some (.float (.infinity negative))
    else if t = "nan".toList then some (.float .nan)
    else decimal? negative t

/-! ### Dates and times -/

/-- The number that exactly `count` decimal digits stand for. -/
def fixed? (count : Nat) (t : Text) : Option Nat :=
  if t.length = count ∧ t.all Char.isDigit then Value.ofDigits? 10 t else none

/-- Is the text a day, as `YYYY-MM-DD`? -/
def isDay (t : Text) : Bool :=
  match (Text.splitOn '-' t) with
  | [y, m, d] =>
    match fixed? 4 y, fixed? 2 m, fixed? 2 d with
    | some y, some m, some d =>
      if h : 1 ≤ m ∧ m ≤ 12 then 1 ≤ d && d ≤ Month.days ⟨y, ⟨m - 1, by omega⟩⟩ else false
    | _, _, _ => false
  | _ => false

/-- Are these numbers of two digits, each at most as large as its bound? -/
def areBounded : List (Text × Nat) → Bool
  | [] => true
  | (t, bound) :: parts => (fixed? 2 t).any (· ≤ bound) && areBounded parts

/-- Is the text a time of day, with or without seconds? -/
def isTime (t : Text) : Bool :=
  let (clock, fraction) := cutAt (· == '.') t
  match Text.splitOn ':' clock with
  | [h, m] => fraction.isNone && areBounded [(h, 23), (m, 59)]
  | [h, m, s] =>
    areBounded [(h, 23), (m, 59), (s, 60)] &&
      fraction.all fun f => !f.isEmpty && f.all Char.isDigit
  | _ => false

/-- Is the text a time of day, with or without a distance from universal time? -/
def isOffsetTime (t : Text) : Bool :=
  let time := t.takeWhile fun c => c.isDigit || c == ':' || c == '.'
  let offset := t.drop time.length
  isTime time &&
    match offset with
    | [] | ['Z'] | ['z'] => true
    | '+' :: o | '-' :: o =>
      match Text.splitOn ':' o with
      | [h, m] => areBounded [(h, 23), (m, 59)]
      | _ => false
    | _ => false

/-- Is the text a day, a time of day, or both? -/
def isMoment (t : Text) : Bool :=
  isTime t || isDay t ||
    (isDay (t.take 10) && ["T".toList, "t".toList, [' ']].contains ((t.drop 10).take 1) &&
      isOffsetTime (t.drop 11))

/-- A character of a scalar without quotes. -/
def isBareChar (c : Char) : Bool := isAsciiAlphanumeric c || ['+', '-', '.', '_', ':'].contains c

/-- Reads a scalar that is not a string. A day may have a time behind a blank. -/
def readBare? (t : Text) : Option (Value × Text) :=
  let word := t.takeWhile isBareChar
  let rest := t.drop word.length
  let word :=
    match rest with
    | ' ' :: d :: more => if isDay word && d.isDigit then word ++ ' ' :: (d :: more).takeWhile isBareChar
        else word
    | _ => word
  let rest := t.drop word.length
  if word = "true".toList then some (.bool true, rest)
  else if word = "false".toList then some (.bool false, rest)
  else if isMoment word then some (.other, rest)
  else (number? word).map (·, rest)

end PageLint.Toml
