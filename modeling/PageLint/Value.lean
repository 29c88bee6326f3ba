import PageLint.Number.Binary64

/-!
# Values of configuration

What a configuration file or a request says, before it is known what it is for. Formats differ in
how much they say about a scalar: a `plain` scalar is only its text, and becomes a string, a number
or a flag where one is asked for.

* `Value.string?`, `Value.bool?`, `Value.number?`, `Value.natural?`: a value as what is asked for.
* `Value.record?`: a value as a record with named fields.
-/

namespace PageLint

/-- A value of configuration. -/
inductive Value where
  /-- Nothing. -/
  | null
  /-- A flag. -/
  | bool (b : Bool)
  /-- A whole number. -/
  | integer (n : Int)
  /-- A floating-point number. -/
  | float (x : Binary64)
  /-- A text. -/
  | string (s : String)
  /-- A scalar whose type depends on what is asked for. -/
  | plain (s : String)
  /-- A list, which may also stand for a record: for its fields in order. -/
  | array (items : List Value)
  /-- A list that stands for nothing else. -/
  | sequence (items : List Value)
  /-- Keys with values, in the order in which they are written. -/
  | table (entries : List (String × Value))
  /-- A value that is never asked for, such as a date. -/
  | other
  deriving Inhabited

namespace Value

/-- Is the value nothing, in any of its spellings? -/
def isNull : Value → Bool
  | null => true
  | plain s => s.isEmpty || ["~", "null", "Null", "NULL"].contains s
  | _ => false

/-- The value as a text. -/
def string? : Value → Option String
  | string s | plain s => some s
  | _ => none

/-- The value as a flag. -/
def bool? : Value → Option Bool
  | bool b => some b
  | plain s =>
    if ["true", "True", "TRUE"].contains s then some true
    else if ["false", "False", "FALSE"].contains s then some false
    else none
  | _ => none

/-- Is the number finite? -/
def isFinite : Binary64 → Bool
  | .finite _ _ => true
  | _ => false

/-- A plain scalar as a floating-point number: decimal notation, or a word for an infinity or for
no number that begins with a point. -/
def plainNumber? (s : String) : Option Binary64 :=
  let unsigned := match s.toList with
    | '+' :: t => t
    | t => t
  if [".inf", ".Inf", ".INF"].contains (String.ofList unsigned) then some (.infinity false)
  else if ["-.inf", "-.Inf", "-.INF"].contains s then some (.infinity true)
  else if [".nan", ".NaN", ".NAN"].contains s then some .nan
  else if s.toList.head? == some '+' && (unsigned.head? == some '+' || unsigned.head? == some '-') then none
  else (Binary64.ofText? unsigned).filter isFinite

/-- The value as a floating-point number. -/
def number? : Value → Option Binary64
  | integer n => some (Binary64.ofInt n)
  | float x => some x
  | plain s => plainNumber? s
  | _ => none

/-- The value of a digit of a base up to sixteen. -/
def digit? (base : Nat) (c : Char) : Option Nat :=
  let n :=
    if c.isDigit then c.toNat - 48
    else if 'a' ≤ c ∧ c ≤ 'f' then c.toNat - 87
    else if 'A' ≤ c ∧ c ≤ 'F' then c.toNat - 55
    else base
  if n < base then some n else none

/-- The number that digits of a base stand for; there must be at least one. -/
def ofDigits? (base : Nat) : Text → Option Nat
  | [] => none
  | t => t.foldlM (fun n c => (digit? base c).map (n * base + ·)) 0

/-- A plain scalar as a natural number: decimal without a needless zero in front, or of base
sixteen, eight or two behind a mark. -/
def plainNatural? (s : String) : Option Nat :=
  let unsigned := match s.toList with
    | '+' :: t => t
    | t => t
  match unsigned with
  | '0' :: 'x' :: t => ofDigits? 16 t
  | '0' :: 'o' :: t => ofDigits? 8 t
  | '0' :: 'b' :: t => ofDigits? 2 t
  | '0' :: _ :: _ => none
  | t => ofDigits? 10 t

/-- The value as a natural number of 64 bits. -/
def natural? (v : Value) : Option Nat :=
  let n := match v with
    | integer n => if n < 0 then none else some n.toNat
    | plain s => plainNatural? s
    | _ => none
  n.filter (· < Nat.pow 2 64)

/-- The value as a list. A plain scalar without text is an empty list. -/
def array? : Value → Option (List Value)
  | array items | sequence items => some items
  | plain "" => some []
  | _ => none

/-- The value as a list of what `item` reads. -/
def listOf? {α : Type} (item : Value → Option α) (v : Value) : Option (List α) := do
  (← v.array?).mapM item

/-- The value as an optional `α`: nothing, or what `some?` reads. -/
def optional? {α : Type} (some? : Value → Option α) (v : Value) : Option (Option α) :=
  if v.isNull then some none else (some? v).map some

/-- The value as keys with texts. A plain scalar without text has no keys. -/
def textMap? : Value → Option (List (String × String))
  | table entries => entries.mapM fun (key, v) => v.string?.map (key, ·)
  | plain "" => some []
  | _ => none

/-! ### Records -/

/-- The fields of a record that are given. -/
abbrev Fields := List (String × Value)

/-- The value as a record with these fields: a table in which none of them is given twice, or a
list of their values in order, of which the first `least` must be given. Other keys of a table are
passed over. A plain scalar without text is a record without fields. -/
def record? (names : List String) (v : Value) (least : Nat := 0) : Option Fields :=
  match v with
  | table entries =>
    let known := entries.filter fun e => names.contains e.1
    if (known.map (·.1)).eraseDups.length = known.length then some known else none
  | array items =>
    if least ≤ items.length ∧ items.length ≤ names.length then some (names.zip items) else none
  | plain "" => some []
  | _ => none

namespace Fields

variable {α : Type} (fields : Fields) (name : String)

/-- The field's value if it is given. -/
def find? : Option Value := (List.find? (fun e => e.1 == name) fields).map (·.2)

/-- A field that must be given. -/
def required (read : Value → Option α) : Option α := (fields.find? name).bind read

/-- A field that has a value of its own when it is not given. -/
def getD (read : Value → Option α) (default : α) : Option α :=
  match fields.find? name with
  | some v => read v
  | none => some default

/-- A field that may be missing or nothing. -/
def optional (read : Value → Option α) : Option (Option α) :=
  fields.getD name (Value.optional? read) none

end Fields

end Value

end PageLint
