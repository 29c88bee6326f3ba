import PageLint.Yaml.Scalar
import PageLint.Text.CharClass

/-!
# Tokens of YAML

A document as a list of tokens. Indentation becomes tokens too: a collection in block style begins
where its column is first reached and ends where a line falls back behind it. Whether something is
a key is known only at the colon behind it, so the tokens of a key are put in front of it then: a
`PossibleKey` remembers where.

* `Yaml.Token.ofText?`: the tokens of a text.
-/

namespace PageLint.Yaml

/-- A token. -/
inductive Token where
  /-- A directive about the version: its second number. -/
  | version (minor : Nat)
  /-- A directive about a handle of tags. -/
  | tagHandle (handle : Text)
  /-- The start of a document. -/
  | documentStart
  /-- The end of a document. -/
  | documentEnd
  /-- The start of a sequence in block style. -/
  | blockSequence
  /-- The start of a mapping in block style. -/
  | blockMapping
  /-- The end of a collection in block style. -/
  | blockEnd
  /-- The start of a sequence in brackets. -/
  | openSequence
  /-- The end of a sequence in brackets. -/
  | closeSequence
  /-- The start of a mapping in braces. -/
  | openMapping
  /-- The end of a mapping in braces. -/
  | closeMapping
  /-- The mark of an item in block style. -/
  | item
  /-- The mark between items in brackets or braces. -/
  | comma
  /-- The mark of a key. -/
  | key
  /-- The mark of a value. -/
  | value
  /-- A reference to a node. -/
  | reference (name : Text)
  /-- A name for the node that follows. -/
  | anchor (name : Text)
  /-- A tag: its handle and the rest. -/
  | tag (handle rest : Text)
  /-- A scalar. -/
  | scalar (plain : Bool) (text : Text)
  deriving DecidableEq, Repr

/-- Where a key may have begun. -/
structure PossibleKey where
  /-- Must it be a key, because only a key can stand there? -/
  required : Bool
  /-- The number of tokens before it. -/
  tokens : Nat
  /-- Where it begins. -/
  mark : Mark

/-- How far a text has been read. -/
structure Scan where
  /-- What is left. -/
  rest : Text
  /-- The place of what is left. -/
  mark : Mark
  /-- The tokens so far. -/
  tokens : Array Token
  /-- The indentations of the collections around the place, innermost first. -/
  indents : List Nat
  /-- May a key begin here? -/
  keyAllowed : Bool
  /-- The key that may have begun outside of brackets. -/
  blockKey : Option PossibleKey
  /-- The keys that may have begun inside each open bracket, innermost first. -/
  flowKeys : List (Option PossibleKey)

namespace Scan

/-- The start of a text. -/
def start (t : Text) : Scan := ⟨t, ⟨0, 0, 0⟩, #[], [], true, none, []⟩

variable (s : Scan)

/-- Is the place inside brackets? -/
def inFlow : Bool := !s.flowKeys.isEmpty

/-- The indentation of the innermost collection. -/
def indent? : Option Nat := s.indents.head?

/-- The column that what belongs to the innermost collection must reach. -/
def least : Nat := (s.indent?.map (· + 1)).getD 0

/-- The key that may have begun on this level of brackets. -/
def possibleKey : Option PossibleKey :=
  match s.flowKeys with
  | [] => s.blockKey
  | key :: _ => key

/-- The scan with another possible key on this level of brackets. -/
def setKey (key : Option PossibleKey) : Scan :=
  match s.flowKeys with
  | [] => { s with blockKey := key }
  | _ :: keys => { s with flowKeys := key :: keys }

/-- The scan with one more token. -/
def push (t : Token) : Scan := { s with tokens := s.tokens.push t }

/-- The scan behind `n` characters of this line. -/
def skip (n : Nat) : Scan := { s with rest := s.rest.drop n, mark := s.mark.plus n }

/-- The scan where a key may or may not begin. -/
def allowKey (allowed : Bool) : Scan := { s with keyAllowed := allowed }

/-! ### Indentation -/

/-- Begins a collection at a column that is deeper than all around it, in front of the token with
the given number. -/
def indentTo (column : Nat) (start : Token) (index : Nat) : Scan :=
  if s.inFlow || column < s.least then s
  else { s with
    indents := column :: s.indents
    tokens := ((s.tokens.toList.take index) ++ start :: s.tokens.toList.drop index).toArray }

/-- The number of innermost collections that are deeper than a column, and the others. -/
def deeper (column : Option Nat) : List Nat → Nat × List Nat
  | [] => (0, [])
  | i :: indents =>
    if column.all (· < i) then
      let (n, rest) := deeper column indents
      (n + 1, rest)
    else (0, i :: indents)

/-- Ends the collections that are deeper than a column, or all of them. -/
def unindent (column : Option Nat) : Scan :=
  if s.inFlow then s
  else
    let (n, rest) := deeper column s.indents
    { s with indents := rest, tokens := s.tokens ++ Array.replicate n .blockEnd }

/-! ### Keys -/

/-- The distance over which a key may stretch. -/
def maxKeyLength : Nat := 1024

/-- Is a key that began there out of reach? -/
def isStale (key : PossibleKey) : Bool :=
  key.mark.line < s.mark.line || key.mark.index + maxKeyLength < s.mark.index

/-- The keys without those that are out of reach; one that had to be a key is an error. -/
def dropStale? (key : Option PossibleKey) : Option (Option PossibleKey) :=
  match key with
  | none => some none
  | some key => if s.isStale key then (if key.required then none else some none) else some (some key)

/-- The scan without keys that are out of reach. -/
def forget? : Option Scan := do
  return { s with
    blockKey := ← s.dropStale? s.blockKey
    flowKeys := ← s.flowKeys.mapM s.dropStale? }

/-- Gives up the possible key on this level; one that had to be a key is an error. -/
def dropKey? : Option Scan :=
  match s.possibleKey with
  | some key => if key.required then none else some (s.setKey none)
  | none => some s

/-- Remembers that a key may begin here. -/
def saveKey? : Option Scan :=
  if s.keyAllowed then do
    let required := !s.inFlow && s.indent? == some s.mark.column
    return (← s.dropKey?).setKey (some ⟨required, s.tokens.size, s.mark⟩)
  else some s

/-! ### Tokens -/

/-- The document mark or directive at the beginning of a line ends all collections. -/
def atDocument? : Option Scan := do
  return (← (s.unindent none).dropKey?).allowKey false

/-- An opening bracket. -/
def open? (t : Token) : Option Scan := do
  let s := (← s.saveKey?).push t
  return { s with flowKeys := none :: s.flowKeys, keyAllowed := true }.skip 1

/-- A closing bracket. -/
def close? (t : Token) : Option Scan := do
  let s := (← s.dropKey?).push t
  return { s with flowKeys := s.flowKeys.tail, keyAllowed := false }.skip 1

/-- A comma. -/
def comma? : Option Scan := do
  return (((← s.dropKey?).allowKey true).push .comma).skip 1

/-- The mark of an item. -/
def item? : Option Scan := do
  if !s.inFlow && !s.keyAllowed then none
  let s := s.indentTo s.mark.column .blockSequence s.tokens.size
  return (((← s.dropKey?).allowKey true).push .item).skip 1

/-- The mark of a key. -/
def key? : Option Scan := do
  if !s.inFlow && !s.keyAllowed then none
  let s := s.indentTo s.mark.column .blockMapping s.tokens.size
  return (((← s.dropKey?).allowKey (!s.inFlow)).push .key).skip 1

/-- The mark of a value: what began as a possible key is one. -/
def value? : Option Scan :=
  match s.possibleKey with
  | some key =>
    let tokens := s.tokens.toList
    let s := { s with tokens := (tokens.take key.tokens ++ Token.key :: tokens.drop key.tokens).toArray }
    let s := s.indentTo key.mark.column .blockMapping key.tokens
    some ((((s.setKey none).allowKey false).push .value).skip 1)
  | none => do
    if !s.inFlow && !s.keyAllowed then none
    let s := s.indentTo s.mark.column .blockMapping s.tokens.size
    return ((s.allowKey (!s.inFlow)).push .value).skip 1

/-- A character of a name or a handle. -/
def isNameChar (c : Char) : Bool := isAsciiAlphanumeric c || c == '-' || c == '_'

/-- A name for a node, or a reference to one. -/
def name? (token : Text → Token) : Option Scan := do
  let s ← s.saveKey?
  let name := s.rest.tail.takeWhile isNameChar
  let rest := s.rest.tail.drop name.length
  if name.isEmpty then none
  if !(atGap rest || rest.head?.any ['?', ':', ',', ']', '}', '%', '@', '\x60'].contains) then none
  return ((s.allowKey false).push (token name)).skip (name.length + 1)

/-- A character of a tag. -/
def isTagChar (c : Char) : Bool :=
  isNameChar c || ";/?:@&=+$.%!~*'()".toList.contains c

/-- The length of the tag at the head of a text, its handle and the rest. -/
def readTag? (t : Text) : Option (Nat × Text × Text) :=
  match t.tail with
  | '<' :: more =>
    let uri := more.takeWhile fun c => isTagChar c || [',', '[', ']'].contains c
    if uri.isEmpty || (more.drop uri.length).head? != some '>' then none
    else some (uri.length + 3, [], uri)
  | more =>
    let word := more.takeWhile isNameChar
    if (more.drop word.length).head? == some '!' then
      let rest := (more.drop (word.length + 1)).takeWhile isTagChar
      if rest.isEmpty then none
      else some (word.length + 2 + rest.length, '!' :: word ++ ['!'], rest)
    else
      let rest := more.takeWhile isTagChar
      some (rest.length + 1, ['!'], rest)

/-- A tag. -/
def tag? : Option Scan := do
  let s ← s.saveKey?
  let (size, handle, rest) ← readTag? s.rest
  let after := s.rest.drop size
  if !(atGap after || (s.inFlow && after.head? == some ',')) then none
  return ((s.allowKey false).push (.tag handle rest)).skip size

/-- The scan behind a scalar. -/
def scalar (plain : Bool) (r : Scalar) : Scan :=
  { s with rest := r.rest, mark := r.mark }.push (.scalar plain r.text)

/-- A block scalar. -/
def block? (folded : Bool) : Option Scan := do
  let s := (← s.dropKey?).allowKey true
  return s.scalar false (← readBlock? folded s.indent? (s.mark.plus 1) s.rest.tail)

/-- A quoted scalar. -/
def quoted? (double : Bool) : Option Scan := do
  let s := (← s.saveKey?).allowKey false
  let r ← if double then readDouble? (s.mark.plus 1) [] .empty .none s.rest.tail
    else readSingle? (s.mark.plus 1) [] .empty false s.rest.tail
  return s.scalar false r

/-- A plain scalar. Behind line ends a key may begin. -/
def plain? : Option Scan := do
  let s := (← s.saveKey?).allowKey false
  let r ← readPlain? s.inFlow s.least s.mark true [] .empty s.rest
  return (s.scalar true r).allowKey r.overLines

/-! ### Directives -/

/-- A number of at most nine digits and what follows it. -/
def readNumber? (t : Text) : Option (Nat × Text) :=
  let digits := t.takeWhile Char.isDigit
  if digits.length ≤ 9 then (Value.ofDigits? 10 digits).map (·, t.drop digits.length) else none

/-- What follows the blanks and the comment at the end of a directive. -/
def afterDirective? (t : Text) : Option Text :=
  let rest := t.dropWhile isBlank
  let rest := if rest.head? == some '#' then rest.dropWhile (!isBreak ·) else rest
  if rest.head?.all isBreak then some rest else none

/-- Reads a directive behind its mark. -/
def readDirective? (t : Text) : Option (Token × Text) := do
  let name := t.takeWhile isNameChar
  let rest := t.drop name.length
  if name = "YAML".toList then
    let (major, rest) ← readNumber? (rest.dropWhile isBlank)
    let '.' :: rest := rest | none
    let (minor, rest) ← readNumber? rest
    if major ≠ 1 ∨ !(minor == 1 || minor == 2) ∨ !atGap rest then none
    return (.version minor, ← afterDirective? rest)
  else if name = "TAG".toList then
    let handle := (rest.dropWhile isBlank).takeWhile fun c => c == '!' || isNameChar c
    let rest := (rest.dropWhile isBlank).drop handle.length
    let word := (handle.drop 1).dropLast
    if handle.head? ≠ some '!' ∨ handle.getLast? ≠ some '!' ∨ !word.all isNameChar then none
    if !rest.head?.any isBlank then none
    let uri := (rest.dropWhile isBlank).takeWhile fun c => isTagChar c || [',', '[', ']'].contains c
    let rest := (rest.dropWhile isBlank).drop uri.length
    if uri.isEmpty ∨ !atGap rest then none
    return (.tagHandle handle, ← afterDirective? rest)
  else none

/-- A directive. -/
def directive? : Option Scan := do
  let s ← s.atDocument?
  let (token, rest) ← readDirective? s.rest.tail
  return { s with rest := rest, mark := s.mark.plus (s.rest.length - rest.length) }.push token

/-! ### Reading on -/

/-- Skips blanks, comments and line ends. Tabs are blanks only inside brackets and where no key may
begin; a byte order mark may stand in front of a line. -/
def skipGaps (inFlow : Bool) (m : Mark) (keyAllowed inComment : Bool) :
    Text → Mark × Bool × Text
  | [] => (m, keyAllowed, [])
  | c :: t =>
    if isBreak c then skipGaps inFlow (m.after c) (keyAllowed || !inFlow) false t
    else if inComment || c == '#' then skipGaps inFlow (m.after c) keyAllowed true t
    else if c == ' ' || (c == '\t' && (inFlow || !keyAllowed)) || (c == '\uFEFF' && m.column == 0) then
      skipGaps inFlow (m.after c) keyAllowed false t
    else (m, keyAllowed, c :: t)

/-- The characters with a meaning of their own at the start of a token. -/
def indicators : Text := "-?:,[]{}#&*!|>'\"%@".toList ++ ['\x60']

/-- Reads the token that begins with `c` in front of `t`. -/
def token? (c : Char) (t : Text) : Option Scan :=
  if s.mark.column == 0 && c == '%' then s.directive?
  else if s.mark.column == 0 && atDocumentMark s.rest then do
    return ((← s.atDocument?).push (if c == '-' then .documentStart else .documentEnd)).skip 3
  else if c == '[' then s.open? .openSequence
  else if c == '{' then s.open? .openMapping
  else if c == ']' then s.close? .closeSequence
  else if c == '}' then s.close? .closeMapping
  else if c == ',' then s.comma?
  else if c == '-' && atGap t then s.item?
  else if c == '?' && (s.inFlow || atGap t) then s.key?
  else if c == ':' && (s.inFlow || atGap t) then s.value?
  else if c == '*' then s.name? .reference
  else if c == '&' then s.name? .anchor
  else if c == '!' then s.tag?
  else if c == '|' && !s.inFlow then s.block? false
  else if c == '>' && !s.inFlow then s.block? true
  else if c == '\'' then s.quoted? false
  else if c == '"' then s.quoted? true
  else if !indicators.contains c && !isBlank c then s.plain?
  else if c == '-' && !t.head?.any isBlank then s.plain?
  else if (c == '?' || c == ':') && !s.inFlow && !atGap t then s.plain?
  else none

/-- Reads on to the end of the text; `fuel` bounds the number of tokens. -/
def run? : (fuel : Nat) → Scan → Option (Array Token)
  | 0, _ => none
  | fuel + 1, s => do
    let (mark, keyAllowed, rest) := skipGaps s.inFlow s.mark s.keyAllowed false s.rest
    let s ← { s with mark, keyAllowed, rest }.forget?
    match rest with
    | [] => return (← (s.unindent none).dropKey?).tokens
    | c :: t => run? fuel (← (s.unindent (some mark.column)).token? c t)

end Scan

/-- The tokens of a text. -/
def Token.ofText? (t : Text) : Option (List Token) :=
  if t.all isPrintable then
    let t := unifyLines t
    ((Scan.start t).run? (t.length + 1)).map Array.toList
  else none

end PageLint.Yaml
