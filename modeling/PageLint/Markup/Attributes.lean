import PageLint.Text.CharClass

/-!
# Attributes

The attributes of a component tag: names with their values as written, quotes and braces included.
A name without a value is a flag, and its value is empty.

Reading never fails. A quoted value or a brace expression that is not closed runs to the end of the
text, a character that belongs to no attribute is passed over, and so is a brace expression where a
name would stand.

## Main definitions

* `Attributes.read`: the attributes of the text between a tag's name and its end.
* `Attributes.bareValue`: a value without the one layer of braces and the one layer of quotes that
  it may be wrapped in.
-/

namespace PageLint

/-- Attributes in the order in which they are written. -/
structure Attributes where
  /-- The pairs of name and value. -/
  pairs : List (Text × Text)
  deriving DecidableEq, Repr

namespace Attributes

/-! ### Values -/

/-- A character that attribute names are made of. -/
def isNameChar (c : Char) : Bool :=
  isAsciiAlphanumeric c || c == '_' || c == '-' || c == ':' || c == '.'

/-- The rest of a quoted value, up to the quote that closes it, and what follows. -/
def readQuoted (quote : Char) : Text → Text × Text
  | [] => ([], [])
  | c :: t =>
    if c = quote then ([c], t)
    else
      let (value, rest) := readQuoted quote t
      (c :: value, rest)

/-- The rest of a brace expression and what follows it. The expression is `depth` braces deep, and
inside a piece of text that is quoted with `quote`, if there is one. -/
def readBraces (depth : Nat) (quote : Option Char) : Text → Text × Text
  | [] => ([], [])
  | c :: t =>
    let more (depth : Nat) (quote : Option Char) : Text × Text :=
      let (value, rest) := readBraces depth quote t
      (c :: value, rest)
    match quote with
    | some q => if c = q then more depth none else more depth quote
    | none =>
      if c = '\'' ∨ c = '"' ∨ c = '`' then more depth (some c)
      else if c = '{' then more (depth + 1) none
      else if c = '}' then if depth ≤ 1 then ([c], t) else more (depth - 1) none
      else more depth none

/-- The value at the head of the text, and what follows it. -/
def readValue : Text → Text × Text
  | [] => ([], [])
  | c :: t =>
    if c = '\'' ∨ c = '"' then
      let (value, rest) := readQuoted c t
      (c :: value, rest)
    else if c = '{' then readBraces 0 none (c :: t)
    else ((c :: t).takeWhile (!isAsciiSpace ·), (c :: t).dropWhile (!isAsciiSpace ·))

/-- Behind a value in quotes there is no more text than at its start. -/
theorem readQuoted_length (quote : Char) (t : Text) :
    (readQuoted quote t).2.length ≤ t.length := by
  fun_induction readQuoted quote t with
  | case1 => simp
  | case2 => simp
  | case3 c t hne value rest heq ih => simp_all; omega

/-- A value in braces takes one character at least, if there is any. -/
theorem readBraces_length (depth : Nat) (quote : Option Char) (t : Text) :
    (readBraces depth quote t).2.length ≤ t.length - 1 := by
  induction t generalizing depth quote with
  | nil => simp [readBraces]
  | cons c t ih =>
    have hmore : ∀ d q, (readBraces d q t).2.length ≤ t.length := fun d q =>
      Nat.le_trans (ih d q) (Nat.sub_le _ _)
    simp only [readBraces, List.length_cons, Nat.add_sub_cancel]
    split
    · split <;> exact hmore _ _
    · split
      · exact hmore _ _
      · split
        · exact hmore _ _
        · split
          · split
            · exact Nat.le_refl _
            · exact hmore _ _
          · exact hmore _ _

/-- No text grows when characters at its head are dropped. -/
theorem length_dropWhile_le (p : Char → Bool) (t : Text) :
    (t.dropWhile p).length ≤ t.length := (List.dropWhile_suffix p).length_le

/-- Behind a value there is no more text than at its start. -/
theorem readValue_length (t : Text) : (readValue t).2.length ≤ t.length := by
  cases t with
  | nil => simp [readValue]
  | cons c t =>
    simp only [readValue]
    split
    · exact Nat.le_succ_of_le (readQuoted_length c t)
    · split
      · exact Nat.le_trans (readBraces_length 0 none (c :: t)) (Nat.sub_le _ _)
      · exact length_dropWhile_le _ _

/-! ### Pairs -/

/-- The pairs of the text, in order. -/
def readPairs : Text → List (Text × Text)
  | [] => []
  | c :: t =>
    if c = '{' then readPairs (readBraces 0 none (c :: t)).2
    else if isNameChar c then
      let name := c :: t.takeWhile isNameChar
      match _h : (t.dropWhile isNameChar).dropWhile isAsciiSpace with
      | '=' :: more =>
        let value := readValue (more.dropWhile isAsciiSpace)
        (name, value.1) :: readPairs value.2
      | _ => (name, []) :: readPairs (t.dropWhile isNameChar)
    else readPairs t
termination_by t => t.length
decreasing_by
  · have := readBraces_length 0 none (c :: t)
    simp only [List.length_cons] at *
    omega
  · have h1 := readValue_length (more.dropWhile isAsciiSpace)
    have h2 := length_dropWhile_le isAsciiSpace more
    have h3 := length_dropWhile_le isAsciiSpace (t.dropWhile isNameChar)
    have h4 := length_dropWhile_le isNameChar t
    have h5 := congrArg List.length _h
    simp only [List.length_cons] at *
    omega
  · have := length_dropWhile_le isNameChar t
    simp only [List.length_cons] at *
    omega
  · simp

/-- The attributes of the text. -/
def read (t : Text) : Attributes := ⟨readPairs t⟩

/-! ### Look-up -/

/-- The value without a layer of braces and a layer of quotes. Blanks around the braces and inside
them are dropped; blanks inside the quotes are kept. -/
def bareValue (v : Text) : Text :=
  let v := v.trim
  let v := (unwrap? '{' '}' v).getD v |>.trim
  match unwrap? '\'' '\'' v with
  | some inner => inner
  | none => (unwrap? '"' '"' v).getD v
where
  /-- The text between an opening and a closing character. -/
  unwrap? (opening closing : Char) : Text → Option Text
    | [] => none
    | c :: t => if c = opening ∧ t.getLast? = some closing then some t.dropLast else none

variable (as : Attributes)

/-- The first value that is written for `key`. -/
def get? (key : String) : Option Text :=
  (as.pairs.find? fun p => p.1 == key.toList).map (·.2)

/-- Is there an attribute named `key`? -/
def has (key : String) : Bool := as.pairs.any fun p => p.1 == key.toList

/-- The first value for `key` without its wrapping. -/
def bare? (key : String) : Option Text := (as.get? key).map bareValue

end Attributes

end PageLint
