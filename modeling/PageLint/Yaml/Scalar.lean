import PageLint.Value

/-!
# Scalars of YAML

Scalars in five forms: plain, in single or double quotes, and as blocks whose line ends are kept or
folded. A scalar may go over several lines; where it does, the blanks around a line end are dropped
and the line ends are folded: one is a space, and of several all but the first are kept.

Texts are read with their line ends unified (`Yaml.unifyLines`).

* `Yaml.readPlain?`, `Yaml.readSingle?`, `Yaml.readDouble?`, `Yaml.readBlock?`: read a scalar.
-/

namespace PageLint.Yaml

/-! ### Characters and places -/

/-- May the character stand in a document? -/
def isPrintable (c : Char) : Bool :=
  let n := c.toNat
  n == 9 || n == 10 || n == 13 || (32 ≤ n && n ≤ 126) || n == 0x85 || (0xA0 ≤ n && n ≤ 0xD7FF) ||
    (0xE000 ≤ n && n ≤ 0xFFFD) || 0x10000 ≤ n

/-- The text with every line end as a line feed, except the two separators of lines and
paragraphs. -/
def unifyLines : Text → Text
  | [] => []
  | '\r' :: '\n' :: t => '\n' :: unifyLines t
  | c :: t => (if c == '\r' || c == '\u0085' then '\n' else c) :: unifyLines t

/-- A space or a tab. -/
def isBlank (c : Char) : Bool := c == ' ' || c == '\t'

/-- The end of a line. -/
def isBreak (c : Char) : Bool := c == '\n' || c == '\u2028' || c == '\u2029'

/-- Does the text begin with a blank or a line end, or is it at its end? -/
def atGap (t : Text) : Bool := t.head?.all fun c => isBlank c || isBreak c

/-- Does the text begin with the mark of the start or end of a document? -/
def atDocumentMark (t : Text) : Bool :=
  ["---".toList, "...".toList].any fun mark => mark.isPrefixOf t && atGap (t.drop 3)

/-- A place in a document. -/
structure Mark where
  /-- The number of characters before it. -/
  index : Nat
  /-- The number of line ends before it. -/
  line : Nat
  /-- The number of characters before it in its line. -/
  column : Nat
  deriving DecidableEq, Repr

/-- The place behind a character. -/
def Mark.after (m : Mark) (c : Char) : Mark :=
  if isBreak c then ⟨m.index + 1, m.line + 1, 0⟩ else ⟨m.index + 1, m.line, m.column + 1⟩

/-- The place behind `n` characters of one line. -/
def Mark.plus (m : Mark) (n : Nat) : Mark := ⟨m.index + n, m.line, m.column + n⟩

/-- A scalar that was read. -/
structure Scalar where
  /-- Its text. -/
  text : Text
  /-- The place behind it. -/
  mark : Mark
  /-- Are there line ends behind it that were passed over? -/
  overLines : Bool
  /-- What follows. -/
  rest : Text

/-! ### Gaps -/

/-- What stands between two parts of a scalar, last character first. -/
inductive Gap where
  /-- Blanks within a line. -/
  | blanks (reversed : Text)
  /-- Line ends. -/
  | breaks (reversed : Text)
  /-- Line ends behind one that was escaped. -/
  | continued (reversed : Text)

namespace Gap

/-- Nothing. -/
def empty : Gap := blanks []

/-- Does the gap hold a line end? -/
def overLines : Gap → Bool
  | blanks _ => false
  | _ => true

/-- Is there no gap? -/
def isEmpty : Gap → Bool
  | blanks t => t.isEmpty
  | _ => false

/-- The gap with one more blank or line end. Blanks count only within a line. -/
def push (c : Char) : Gap → Gap
  | blanks t => if isBreak c then breaks [c] else blanks (c :: t)
  | breaks t => if isBreak c then breaks (c :: t) else breaks t
  | continued t => if isBreak c then continued (c :: t) else continued t

/-- What the gap contributes to the scalar: blanks as they are, and folded line ends. -/
def text : Gap → Text
  | blanks t => t.reverse
  | breaks t =>
    match t.reverse with
    | ['\n'] => [' ']
    | '\n' :: more => more
    | all => all
  | continued t => t.reverse

end Gap

/-! ### Plain scalars -/

/-- A character that ends a plain scalar inside brackets. -/
def isFlowMark (c : Char) : Bool := [',', '[', ']', '{', '}'].contains c

/-- Does a colon end a plain scalar in front of this text? -/
def endsPlain (flow : Bool) (c : Char) (t : Text) : Bool :=
  (c == ':' && atGap t) || (flow && isFlowMark c)

/-- Reads a plain scalar. `least` is the column that further lines must reach, `fresh` whether a
comment may start here, and `done` holds what has been read, last character first. -/
def readPlain? (flow : Bool) (least : Nat) (m : Mark) (fresh : Bool) (done : Text) (gap : Gap) :
    Text → Option Scalar
  | [] => some ⟨done.reverse, m, gap.overLines, []⟩
  | c :: t =>
    let stop : Option Scalar := some ⟨done.reverse, m, gap.overLines, c :: t⟩
    if isBlank c && gap.overLines && m.column < least && c == '\t' then none
    else if isBlank c || isBreak c then
      readPlain? flow least (m.after c) true done (gap.push c) t
    else if gap.overLines && !flow && m.column < least then stop
    else if fresh && ((m.column == 0 && atDocumentMark (c :: t)) || c == '#') then stop
    else if flow && c == ':' && t.head?.any (fun d => isFlowMark d || d == '?') then none
    else if endsPlain flow c t then stop
    else readPlain? flow least (m.after c) false (c :: (gap.text.reverse ++ done)) .empty t

/-! ### Quoted scalars -/

/-- Reads a scalar in single quotes, behind the opening one. `quoted` tells whether the character
before was a quote that may close the scalar. -/
def readSingle? (m : Mark) (done : Text) (gap : Gap) (quoted : Bool) : Text → Option Scalar
  | [] => if quoted then some ⟨done.reverse, m, false, []⟩ else none
  | c :: t =>
    if quoted then
      if c == '\'' then readSingle? (m.after c) ('\'' :: done) .empty false t
      else some ⟨done.reverse, m, false, c :: t⟩
    else if m.column == 0 && atDocumentMark (c :: t) then none
    else if isBlank c || isBreak c then readSingle? (m.after c) done (gap.push c) false t
    else
      let done := gap.text.reverse ++ done
      if c == '\'' then readSingle? (m.after c) done .empty true t
      else readSingle? (m.after c) (c :: done) .empty false t

/-- What a character behind a backslash stands for. -/
def escaped? : Char → Option Char
  | '0' => some '\x00'
  | 'a' => some '\x07'
  | 'b' => some '\x08'
  | 't' | '\t' => some '\t'
  | 'n' => some '\n'
  | 'v' => some '\x0b'
  | 'f' => some '\x0c'
  | 'r' => some '\r'
  | 'e' => some '\x1b'
  | ' ' => some ' '
  | '"' => some '"'
  | '/' => some '/'
  | '\\' => some '\\'
  | 'N' => some '\u0085'
  | '_' => some '\u00a0'
  | 'L' => some '\u2028'
  | 'P' => some '\u2029'
  | _ => none

/-- The number of digits of a code point that a character behind a backslash announces. -/
def codeLength? : Char → Option Nat
  | 'x' => some 2
  | 'u' => some 4
  | 'U' => some 8
  | _ => none

/-- Where the reading of a scalar in double quotes stands. -/
inductive Escape where
  /-- Between characters. -/
  | none
  /-- Behind a backslash. -/
  | begun
  /-- In a code point, of which so many digits are left. -/
  | digits (left value : Nat)

/-- Reads a scalar in double quotes, behind the opening one. -/
def readDouble? (m : Mark) (done : Text) (gap : Gap) (escape : Escape) : Text → Option Scalar
  | [] => none
  | c :: t =>
    match escape with
    | .begun =>
      if isBreak c then readDouble? (m.after c) done (.continued []) .none t
      else
        match escaped? c, codeLength? c with
        | some e, _ => readDouble? (m.after c) (e :: done) .empty .none t
        | none, some left => readDouble? (m.after c) done .empty (.digits left 0) t
        | none, none => none
    | .digits left value =>
      match Value.digit? 16 c with
      | none => none
      | some d =>
        let value := value * 16 + d
        if 1 < left then readDouble? (m.after c) done .empty (.digits (left - 1) value) t
        else if value.isValidChar then
          readDouble? (m.after c) (Char.ofNat value :: done) .empty .none t
        else none
    | .none =>
      if m.column == 0 && atDocumentMark (c :: t) then none
      else if isBlank c || isBreak c then readDouble? (m.after c) done (gap.push c) .none t
      else
        let done := gap.text.reverse ++ done
        if c == '"' then some ⟨done.reverse, m.after c, false, t⟩
        else if c == '\\' then readDouble? (m.after c) done .empty .begun t
        else readDouble? (m.after c) (c :: done) .empty .none t

/-! ### Blocks -/

/-- What becomes of the line ends at the end of a block. -/
inductive Chomp where
  /-- None is kept. -/
  | strip
  /-- One is kept. -/
  | clip
  /-- All are kept. -/
  | keep
  deriving DecidableEq

/-- How a block is written. -/
structure BlockStyle where
  /-- Are line ends folded? -/
  folded : Bool
  /-- What becomes of the last line ends. -/
  chomp : Chomp
  /-- The indentation of the collection around the block, if there is one. -/
  outer : Option Nat

/-- What has been read of a block. -/
structure BlockState where
  /-- The indentation of the block, if it is known. -/
  indent : Option Nat
  /-- The deepest indentation of the empty lines before the first other one. -/
  deepest : Nat
  /-- The text, last character first. -/
  done : Text
  /-- The end of the last line that is not empty. -/
  lineEnd : Text
  /-- The ends of the empty lines behind it, last one first. -/
  emptyLines : Text
  /-- Did the last line that is not empty begin with a blank? -/
  wasIndented : Bool

namespace BlockState

/-- The start of a block with a given indentation. -/
def start (indent : Option Nat) : BlockState := ⟨indent, 0, [], [], [], false⟩

/-- The indentation of the block once a line that is not empty is there. -/
def settled (s : BlockState) (style : BlockStyle) : Nat :=
  s.indent.getD (Nat.max s.deepest (Nat.max 1 ((style.outer.map (· + 1)).getD 0)))

/-- The block with the beginning of a line: the line end before it is folded between two lines that
do not begin with a blank. -/
def startLine (s : BlockState) (style : BlockStyle) (c : Char) : BlockState :=
  let fold := style.folded && s.lineEnd == ['\n'] && !s.wasIndented && !isBlank c
  let between := if !fold then s.lineEnd else if s.emptyLines.isEmpty then [' '] else []
  { s with
    done := c :: (s.emptyLines ++ (between ++ s.done))
    lineEnd := []
    emptyLines := []
    wasIndented := isBlank c }

/-- The finished block. -/
def finish (s : BlockState) (style : BlockStyle) : Text :=
  let tail := match style.chomp with
    | .strip => []
    | .clip => s.lineEnd
    | .keep => s.emptyLines ++ s.lineEnd
  (tail ++ s.done).reverse

end BlockState

/-- Reads the lines of a block; `inLine` tells whether the reading is within a line or in front of
one. -/
def readBlockLines? (style : BlockStyle) (m : Mark) (s : BlockState) (inLine : Bool) :
    Text → Option Scalar
  | [] => some ⟨s.finish style, m, false, []⟩
  | c :: t =>
    if inLine then
      if isBreak c then readBlockLines? style (m.after c) { s with lineEnd := [c] } false t
      else readBlockLines? style (m.after c) { s with done := c :: s.done } true t
    else
      let inIndent := s.indent.all (m.column < ·)
      if inIndent && c == ' ' then readBlockLines? style (m.after c) s false t
      else if inIndent && c == '\t' then none
      else
        let s := { s with deepest := Nat.max s.deepest m.column }
        if isBreak c then
          readBlockLines? style (m.after c) { s with emptyLines := c :: s.emptyLines } false t
        else
          let indent := s.settled style
          let s := { s with indent := some indent }
          if m.column = indent then readBlockLines? style (m.after c) (s.startLine style c) true t
          else some ⟨s.finish style, m, false, c :: t⟩

/-- The chomping that a character asks for. -/
def chomp? : Char → Option Chomp
  | '-' => some .strip
  | '+' => some .keep
  | _ => none

/-- The indentation that a digit asks for. -/
def increment? (c : Char) : Option Nat :=
  if '1' ≤ c ∧ c ≤ '9' then some (c.toNat - '0'.toNat) else none

/-- Reads what follows the mark of a block on its line: the chomping and the indentation in any
order, each at most once. -/
def readBlockHeader (t : Text) : Option Chomp × Option Nat × Text :=
  let chompFirst (t : Text) : Option Chomp × Text :=
    match t with
    | c :: rest => match chomp? c with
      | some chomp => (some chomp, rest)
      | none => (none, t)
    | [] => (none, [])
  let incrementFirst (t : Text) : Option Nat × Text :=
    match t with
    | c :: rest => match increment? c with
      | some n => (some n, rest)
      | none => (none, t)
    | [] => (none, [])
  match chompFirst t with
  | (some chomp, rest) =>
    let (n, rest) := incrementFirst rest
    (some chomp, n, rest)
  | (none, _) =>
    match incrementFirst t with
    | (some n, rest) =>
      let (chomp, rest) := chompFirst rest
      (chomp, some n, rest)
    | (none, _) => (none, none, t)

/-- Reads a block behind its mark. -/
def readBlock? (folded : Bool) (outer : Option Nat) (m : Mark) (t : Text) : Option Scalar :=
  let (chomp, increment, rest) := readBlockHeader t
  let comment := rest.dropWhile isBlank
  let rest := if comment.head? == some '#' then comment.dropWhile (!isBreak ·) else comment
  let m := m.plus (t.length - rest.length)
  let style : BlockStyle := ⟨folded, chomp.getD .clip, outer⟩
  let start := BlockState.start (increment.map (outer.getD 0 + ·))
  match rest with
  | [] => readBlockLines? style m start false []
  | c :: rest => if isBreak c then readBlockLines? style (m.after c) start false rest else none

end PageLint.Yaml
