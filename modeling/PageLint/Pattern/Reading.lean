import PageLint.Pattern.Basic

/-!
# Reading patterns

The notation of patterns: characters, `.`, classes in brackets with their algebra, escapes, places,
groups, choice with `|`, repetition with `?`, `*`, `+` and counts in braces, and flags.

Reading keeps a cursor: what is ahead, the flags that are on, and the names that groups have. A
pattern that does not follow the notation, nests too deeply or would take too much room when it is
unfolded cannot be read.

* `Pattern.parse?`: reads a pattern of whatever size.
* `Pattern.ofText?`: reads a pattern.
-/

namespace PageLint.Pattern

/-- The flags that change what notation means. -/
structure Flags where
  /-- Do letters stand for their case variants too? -/
  ignoreCase : Bool := false
  /-- Are `^` and `$` the ends of lines? -/
  multiLine : Bool := false
  /-- Does `.` stand for line ends too? -/
  dotAll : Bool := false
  /-- Are classes those of all of Unicode? -/
  unicode : Bool := true
  /-- Are blanks and comments passed over? -/
  spaced : Bool := false
  /-- Do lines end with a carriage return too? -/
  returns : Bool := false

/-- The state of reading. -/
structure Cursor where
  /-- What is ahead. -/
  rest : Text
  /-- The flags that are on. -/
  flags : Flags := {}
  /-- The names of the groups so far. -/
  names : List Text := []

/-- A part of reading, which may fail. -/
abbrev Read (α : Type) := StateT Cursor Option α

/-- Fails. -/
def refuse {α : Type} : Read α := fun _ => none

/-- What is ahead. -/
def ahead : Read Text := do return (← get).rest

/-- The flags that are on. -/
def flags : Read Flags := do return (← get).flags

/-- Goes on with `t`. -/
def goTo (t : Text) : Read Unit := modify fun s => { s with rest := t }

/-- The text without blanks and comments at its start; `comment` tells that it starts inside a
comment. -/
def dropBlanks (comment : Bool) : Text → Text
  | [] => []
  | c :: t =>
    if comment then dropBlanks (c != '\n') t
    else if c = '#' then dropBlanks true t
    else if isSpace c then dropBlanks false t
    else c :: t

/-- Passes over blanks and comments if the flags say so. -/
def skipBlanks : Read Unit := do
  if (← flags).spaced then goTo (dropBlanks false (← ahead))

/-- The next character, if there is one. -/
def peek : Read (Option Char) := do return (← ahead).head?

/-- The character that is ahead; fails at the end. -/
def current : Read Char := do
  match ← ahead with
  | [] => refuse
  | c :: _ => return c

/-- Passes over one character. -/
def bump : Read Unit := do goTo (← ahead).tail

/-- Passes over one character and then over blanks. -/
def bumpBlanks : Read Unit := do
  bump
  skipBlanks

/-- Passes over `head` if it is ahead, and tells whether it was. -/
def bumpIf (head : String) : Read Bool := do
  match Text.after? head.toList (← ahead) with
  | some t =>
    goTo t
    return true
  | none => return false

/-! ### Numbers and escapes -/

/-- Passes over all blanks, whatever the flags are. -/
def skipAllBlanks : Read Unit := do goTo ((← ahead).dropWhile isSpace)

/-- Takes the characters ahead that satisfy `p`, with blanks between them if the flags say so. The
fuel is the number of characters ahead. -/
def takeSpaced (p : Char → Bool) : Nat → Read Text
  | 0 => return []
  | fuel + 1 => do
    match ← peek with
    | some c =>
      if p c then
        bumpBlanks
        return c :: (← takeSpaced p fuel)
      else return []
    | none => return []

/-- Takes the characters ahead that satisfy `p`. -/
def takeAll (p : Char → Bool) : Read Text := do takeSpaced p (← ahead).length

/-- The value of a digit of base sixteen. -/
def hexDigit? (c : Char) : Option Nat :=
  if c.isDigit then some (c.toNat - 48)
  else if 'a' ≤ c ∧ c ≤ 'f' then some (c.toNat - 87)
  else if 'A' ≤ c ∧ c ≤ 'F' then some (c.toNat - 55)
  else none

/-- The value of hexadecimal digits. -/
def hexValue? (t : Text) : Option Nat :=
  t.foldlM (fun n c => (hexDigit? c).map (n * 16 + ·)) 0

/-- The character with this code point. -/
def charOf (n : Nat) : Read Char :=
  if n.isValidChar then return Char.ofNat n else refuse

/-- Reads a count of a repetition. -/
def readCount : Read Nat := do
  skipAllBlanks
  let digits ← takeAll Char.isDigit
  skipAllBlanks
  if digits.isEmpty then refuse
  let n := digits.foldl (fun n c => n * 10 + (c.toNat - 48)) 0
  if n < Nat.pow 2 32 then return n else refuse

/-- Reads a fixed number of hexadecimal digits. -/
def readHexDigits : Nat → Read Text
  | 0 => return []
  | n + 1 => do
    let c ← current
    if (hexDigit? c).isNone then refuse
    bumpBlanks
    return c :: (← readHexDigits n)

/-- What an escape or a plain character stands for. -/
inductive Item where
  /-- A character. The flag tells that it was written as a byte of two hexadecimal digits. -/
  | literal (c : Char) (byte : Bool)
  /-- A set of characters. -/
  | set (s : CharSet)
  /-- A place. -/
  | place (p : Place)

/-- Reads the code point behind `\x`, `\u` or `\U`. -/
def readHex (width : Nat) : Read Item := do
  bumpBlanks
  if (← current) = '{' then
    bumpBlanks
    let digits ← takeAll (· != '}')
    let _ ← current
    bumpBlanks
    match digits, hexValue? digits with
    | _ :: _, some n => return .literal (← charOf n) false
    | _, _ => refuse
  else
    match hexValue? (← readHexDigits width) with
    | some n => return .literal (← charOf n) (width == 2)
    | none => refuse

/-- The set, with case variants if the flags say so, and then negated if it has to be. -/
def foldAndNegate (negated : Bool) (s : CharSet) : Read CharSet := do
  let f ← flags
  let s := if f.ignoreCase then if f.unicode then .folded s else .asciiFolded s else s
  let s := if negated then .compl s else s
  if !f.unicode && s.holds '\x80' then refuse
  return s

/-- Splits a text at the first of the marks of a property with a value; `none` is no mark. -/
def splitProperty (t : Text) : Option (Bool × Text × Text) :=
  match Text.splitAt? ['!', '='] t, Text.splitAt? [':'] t, Text.splitAt? ['='] t with
  | some (name, value), _, _ => some (true, name, value)
  | none, some (name, value), _ => some (false, name, value)
  | none, none, some (name, value) => some (false, name, value)
  | none, none, none => none

/-- Reads the property behind `\p` or `\P`. -/
def readProperty : Read Item := do
  let negated := (← current) = 'P'
  bumpBlanks
  let (negated, found) ← do
    if (← current) = '{' then
      bumpBlanks
      let name ← takeAll (· != '}')
      let _ ← current
      bump
      match splitProperty name with
      | some (unequal, property, value) =>
        pure (negated != unequal, CharSet.propertyValue? property value)
      | none => pure (negated, CharSet.property? name)
    else
      let c ← current
      if c = '\\' then refuse
      bumpBlanks
      pure (negated, CharSet.property? [c])
  match found with
  | none => refuse
  | some s =>
    if !(← flags).unicode then refuse
    return .set (← foldAndNegate negated s)

/-- The class of a one-letter escape. -/
def shorthand (c : Char) : Read Item := do
  let unicode := (← flags).unicode
  let s : CharSet :=
    match c.toLower with
    | 'd' => if unicode then .digit else .asciiDigit
    | 's' => if unicode then .space else .asciiSpace
    | _ => if unicode then .word else .asciiWord
  if c.isUpper then
    if unicode then return .set (.compl s) else refuse
  else return .set s

/-- Characters that have a meaning of their own. -/
def isMeta (c : Char) : Bool := "\\.+*?()|[]\x7b\x7d^$#&-~".toList.contains c

/-- Characters that may follow a backslash and then stand for themselves. -/
def isEscapable (c : Char) : Bool :=
  isMeta c || (c.toNat < 128 && !c.isAlphanum && c != '<' && c != '>')

/-- Reads the name of a place of words in braces, if there is one. -/
def readWordPlace (word : CharSet) : Read (Option Place) := do
  let isNameChar (c : Char) : Bool := c.isAlpha || c == '-'
  let before ← get
  bumpBlanks
  if !isNameChar (← current) then
    set before
    return none
  let name ← takeAll isNameChar
  if (← current) != '}' then refuse
  bump
  match name.str with
  | "start" => return some (.wordStart word)
  | "end" => return some (.wordEnd word)
  | "start-half" => return some (.notBehindWord word)
  | "end-half" => return some (.notBeforeWord word)
  | _ => refuse

/-- Reads an escape; the backslash is ahead. -/
def readEscape : Read Item := do
  bump
  let c ← current
  let word : CharSet := if (← flags).unicode then .word else .asciiWord
  if c.isDigit then refuse
  match c with
  | 'x' => readHex 2
  | 'u' => readHex 4
  | 'U' => readHex 8
  | 'p' | 'P' => readProperty
  | 'd' | 's' | 'w' | 'D' | 'S' | 'W' =>
    bump
    shorthand c
  | _ =>
    bump
    if isEscapable c then return .literal c false
    match c with
    | 'a' => return .literal '\x07' false
    | 'f' => return .literal '\x0c' false
    | 't' => return .literal '\t' false
    | 'n' => return .literal '\n' false
    | 'r' => return .literal '\r' false
    | 'v' => return .literal '\x0b' false
    | 'A' => return .place .textStart
    | 'z' => return .place .textEnd
    | 'B' => return .place (.noWordBoundary word)
    | '<' => return .place (.wordStart word)
    | '>' => return .place (.wordEnd word)
    | 'b' =>
      if (← peek) = some '{' then
        return .place ((← readWordPlace word).getD (.wordBoundary word))
      else return .place (.wordBoundary word)
    | _ => refuse

/-! ### Classes in brackets -/

/-- An operation of the algebra of classes. -/
inductive ClassOp where
  /-- What is in both. -/
  | inter
  /-- What is in the first only. -/
  | diff
  /-- What is in one of them only. -/
  | symmDiff

/-- Applies an operation that waits for its second operand. -/
def applyPending (pending : Option (CharSet × ClassOp)) (s : CharSet) : Read CharSet := do
  match pending with
  | none => return s
  | some (lhs, op) =>
    let f ← flags
    let fold (s : CharSet) : CharSet :=
      if f.ignoreCase then if f.unicode then .folded s else .asciiFolded s else s
    match op with
    | .inter => return .inter (fold lhs) (fold s)
    | .diff => return .diff (fold lhs) (fold s)
    | .symmDiff => return .symmDiff (fold lhs) (fold s)

/-- Reads a class of ASCII characters such as `[:alpha:]`, if there is one ahead. -/
def readAsciiClass : Read (Option CharSet) := do
  match Text.after? ['[', ':'] (← ahead) with
  | none => return none
  | some t =>
    let (negated, t) := match t with
      | '^' :: t => (true, t)
      | t => (false, t)
    match Text.after? [':', ']'] (t.dropWhile (· != ':')), CharSet.ascii? (Text.str (t.takeWhile (· != ':'))) with
    | some t, some s =>
      goTo t
      return some (← foldAndNegate negated s)
    | _, _ => return none

/-- Reads one character or escape of a class. -/
def readClassItem : Read Item := do
  let c ← current
  if c = '\\' then readEscape
  else
    bump
    return .literal c false

/-- The character of a literal, which has to be one that the flags admit in a class. -/
def classChar : Item → Read Char
  | .literal c _ => do
    if !(← flags).unicode && 128 ≤ c.toNat then refuse
    return c
  | _ => refuse

/-- Reads a character, a range or an escaped set of a class. -/
def readClassRange : Read CharSet := do
  let first ← readClassItem
  skipBlanks
  let c ← current
  let behind := (← ahead).tail
  let next := (if (← flags).spaced then dropBlanks false behind else behind).head?
  if c != '-' || next = some ']' || next = some '-' then
    match first with
    | .set s => return s
    | item => return .single (← classChar item)
  else
    bumpBlanks
    let last ← readClassItem
    let lo ← classChar first
    let hi ← classChar last
    if lo.toNat ≤ hi.toNat then return .ranges [(lo.toNat, hi.toNat)] else refuse

/-- Takes hyphens at the start of a class. The fuel is the number of characters ahead. -/
def takeHyphens : Nat → Read Nat
  | 0 => return 0
  | fuel + 1 => do
    if (← current) = '-' then
      bumpBlanks
      return (← takeHyphens fuel) + 1
    else return 0

mutual

/-- Reads a class; its opening bracket is ahead. Also gives how deep classes nest in it. -/
def readClass : Nat → Read (CharSet × Nat)
  | 0 => refuse
  | fuel + 1 => do
    bumpBlanks
    let negated := (← current) = '^'
    if negated then bumpBlanks
    let hyphens ← takeHyphens (← ahead).length
    let start : CharSet := if hyphens = 0 then .empty else .single '-'
    let start ← do
      if hyphens = 0 ∧ (← current) = ']' then
        bumpBlanks
        pure (CharSet.single ']')
      else pure start
    let (s, depth) ← readClassRest fuel none start 0
    return (← foldAndNegate negated s, depth + 1)

/-- Reads the rest of a class, up to behind its closing bracket. `sofar` is the union of what was
read since the operation that is `pending`. -/
def readClassRest : Nat → Option (CharSet × ClassOp) → CharSet → Nat → Read (CharSet × Nat)
  | 0, _, _, _ => refuse
  | fuel + 1, pending, sofar, depth => do
    skipBlanks
    let c ← current
    let operation (op : ClassOp) : Read (CharSet × Nat) := do
      bump
      bump
      let lhs ← applyPending pending sofar
      readClassRest fuel (some (lhs, op)) .empty (depth + 1)
    let next := (← ahead).tail.head?
    if c = '[' then
      match ← readAsciiClass with
      | some s => readClassRest fuel pending (.union sofar s) depth
      | none =>
        let (s, inner) ← readClass fuel
        readClassRest fuel pending (.union sofar s) (Nat.max depth inner)
    else if c = ']' then
      bump
      return (← applyPending pending sofar, depth)
    else if c = '&' ∧ next = some '&' then operation .inter
    else if c = '-' ∧ next = some '-' then operation .diff
    else if c = '~' ∧ next = some '~' then operation .symmDiff
    else
      let s ← readClassRange
      readClassRest fuel pending (.union sofar s) depth

end

/-! ### Groups and sequences -/

/-- A part of a pattern that has been read. -/
structure Node where
  /-- The pattern. -/
  pattern : Pattern
  /-- How deep its notation nests. -/
  depth : Nat
  /-- May it be repeated? Nothing and a change of flags may not. -/
  repeatable : Bool := true

/-- The deepest nesting of notation. -/
def maxDepth : Nat := 250

/-- A part that nests in itself parts of depth `depth`. -/
def nested (pattern : Pattern) (depth : Nat) : Read Node :=
  if depth + 1 ≤ maxDepth then return { pattern, depth := depth + 1 } else refuse

/-- Some parts in sequence. -/
def sequenceOf : List Node → Read Node
  | [] => return { pattern := .empty, depth := 0, repeatable := false }
  | [n] => return n
  | ns =>
    nested (ns.foldr (fun n p => .seq n.pattern p) .empty) (ns.foldl (fun d n => Nat.max d n.depth) 0)

/-- A choice between some parts. -/
def choiceOf : List Node → Read Node
  | [] => refuse
  | [n] => return n
  | n :: ns =>
    nested (ns.foldl (fun p n => .alt p n.pattern) n.pattern)
      ((n :: ns).foldl (fun d n => Nat.max d n.depth) 0)

/-- The pattern of a character or an escape outside of classes. -/
def itemPattern : Item → Read Pattern
  | .set s => return .char s
  | .place p => return .place p
  | .literal c byte => do
    let f ← flags
    if byte && !f.unicode && 128 ≤ c.toNat then refuse
    if f.ignoreCase then
      return .char (if f.unicode then .folded (.single c) else .asciiFolded (.single c))
    else return .char (.single c)

/-- Reads one character, escape or place. -/
def readPrimitive : Read Pattern := do
  let c ← current
  let f ← flags
  match c with
  | '\\' => itemPattern (← readEscape)
  | '.' =>
    bump
    if !f.unicode then refuse
    if f.dotAll then return .char .full
    else if f.returns then return .char (.compl (.ranges [(10, 10), (13, 13)]))
    else return .char (.compl (.single '\n'))
  | '^' =>
    bump
    return .place (if f.multiLine then if f.returns then .lineStartReturn else .lineStart
      else .textStart)
  | '$' =>
    bump
    return .place (if f.multiLine then if f.returns then .lineEndReturn else .lineEnd
      else .textEnd)
  | _ =>
    bump
    itemPattern (.literal c false)

/-- The flags after one of them is switched on or off. The greediness of repetitions does not change
what matches. -/
def setFlag (f : Flags) (c : Char) (on : Bool) : Option Flags :=
  match c with
  | 'i' => some { f with ignoreCase := on }
  | 'm' => some { f with multiLine := on }
  | 's' => some { f with dotAll := on }
  | 'u' => some { f with unicode := on }
  | 'x' => some { f with spaced := on }
  | 'R' => some { f with returns := on }
  | 'U' => some f
  | _ => none

/-- The flags after a list of them is switched on, and off behind a hyphen. No flag may be named
twice, and a hyphen must have a flag behind it. -/
def applyFlags (f : Flags) (on : Bool) (seen : List Char) : Text → Option Flags
  | [] => if seen.head? = some '-' then none else some f
  | c :: t =>
    if seen.contains c then none
    else if c = '-' then applyFlags f false (c :: seen) t
    else do applyFlags (← setFlag f c on) on (c :: seen) t

/-- Reads a group's name, up to behind the `>` that ends it. A name must be new. -/
def readName : Read Unit := do
  let isFirst (c : Char) : Bool :=
    c == '_' || (isAlphanumeric c && !(CharSet.categories [.digit, .letterNumber, .otherNumber]).holds c)
      || (CharSet.categories [.letterNumber]).holds c
  let isNext (c : Char) : Bool :=
    c == '_' || c == '.' || c == '[' || c == ']' || isAlphanumeric c
  let name := (← ahead).takeWhile (· != '>')
  match name with
  | [] => refuse
  | c :: t =>
    if !isFirst c || !t.all isNext || (← get).names.contains name then refuse
    goTo ((← ahead).drop name.length)
    let _ ← current
    bump
    modify fun s => { s with names := name :: s.names }

/-- Reads the start of a group; its parenthesis is ahead. The result tells whether it was a group:
otherwise it was a change of flags. -/
def readGroupStart : Read Bool := do
  bump
  skipBlanks
  let t ← ahead
  if ["?=", "?!", "?<=", "?<!"].any fun look => Text.startsWith t look.toList then refuse
  if (← bumpIf "?P<") || (← bumpIf "?<") then
    readName
    return true
  else if ← bumpIf "?" then
    let names := (← ahead).takeWhile fun c => c != ':' && c != ')'
    goTo ((← ahead).drop names.length)
    let stop ← current
    bump
    match applyFlags (← flags) true [] names with
    | none => refuse
    | some f =>
      if stop = ')' ∧ names = [] then refuse
      modify fun s => { s with flags := f }
      return stop = ':'
  else return true

/-- Reads the bounds of a repetition; its opening brace is ahead. -/
def readBounds : Read (Nat × Option Nat) := do
  bumpBlanks
  let min ← readCount
  let bounds ← do
    if (← current) = ',' then
      bumpBlanks
      if (← current) = '}' then pure (min, none)
      else pure (min, some (← readCount))
    else pure (min, some min)
  if (← current) != '}' then refuse
  bumpBlanks
  match bounds with
  | (min, some max) => if max < min then refuse else return (min, some max)
  | (min, none) => return (min, none)

/-- Passes over a question mark, which makes a repetition take as little as it can. -/
def skipLazy : Read Unit := do
  let _ ← bumpIf "?"

mutual

/-- Reads a choice up to the end of its group. -/
def readChoice : Nat → List Node → Read Node
  | 0, _ => refuse
  | fuel + 1, before => do
    let n ← readSequence fuel []
    if (← peek) = some '|' then
      bump
      readChoice fuel (n :: before)
    else choiceOf (n :: before).reverse

/-- Reads a sequence up to the end of its choice; `before` holds the parts that were read, last one
first. -/
def readSequence : Nat → List Node → Read Node
  | 0, _ => refuse
  | fuel + 1, before => do
    skipBlanks
    let repetition (min : Nat) (max : Option Nat) : Read Node := do
      match before with
      | n :: before =>
        if !n.repeatable then refuse
        skipLazy
        readSequence fuel ((← nested (.times min max n.pattern) n.depth) :: before)
      | [] => refuse
    match ← peek with
    | none | some ')' | some '|' => sequenceOf before.reverse
    | some '(' =>
      let saved ← flags
      if ← readGroupStart then
        let inner ← readChoice fuel []
        if (← current) != ')' then refuse
        modify fun s => { s with flags := saved }
        bump
        readSequence fuel ((← nested inner.pattern inner.depth) :: before)
      else readSequence fuel ({ pattern := .empty, depth := 0, repeatable := false } :: before)
    | some '[' =>
      let (s, depth) ← readClass fuel
      if maxDepth < depth then refuse
      readSequence fuel ({ pattern := .char s, depth } :: before)
    | some '?' =>
      bump
      repetition 0 (some 1)
    | some '*' =>
      bump
      repetition 0 none
    | some '+' =>
      bump
      repetition 1 none
    | some '{' =>
      if before.head?.all (!·.repeatable) then refuse
      let (min, max) ← readBounds
      repetition min max
    | some _ =>
      let p ← readPrimitive
      readSequence fuel ({ pattern := p, depth := 0 } :: before)

end

/-- Reads a pattern of whatever size. -/
def parse? (t : Text) : Option Pattern :=
  match (readChoice (2 * t.length + 2) []).run { rest := t } with
  | some (n, s) => if s.rest.isEmpty then some n.pattern else none
  | none => none

/-- Reads a pattern that takes no more room than patterns may. -/
def ofText? (t : Text) : Option Pattern := (parse? t).filter fun p => p.cost ≤ maxCost

end PageLint.Pattern
