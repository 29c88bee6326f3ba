import PageLint.Text.Scan
import PageLint.Markup.QueryBlock

/-!
# Prose

The parts of a page that are neither fenced blocks nor headings.

* `Prose.strip`: a text without its fenced blocks and without the text of its heading lines.
* `Prose.headingText?`: the text of a heading line.
-/

namespace PageLint.Prose

/-- A blank within a line. -/
def isInlineBlank (c : Char) : Bool := c == ' ' || c == '\t'

/-- Reads a fenced block, up to the nearest closing fence. -/
def fencedBlock : Reader Unit := fun _ t => do
  let t ← Text.after? QueryBlock.fence t
  let (_, t) ← Text.splitAt? QueryBlock.fence t
  return ((), t)

/-- What follows the number signs and the first blank of a heading line: one to six number signs,
then a space or a tab. -/
def headingRest? (line : Text) : Option Text :=
  let signs := line.takeWhile (· == '#')
  match line.dropWhile (· == '#') with
  | c :: rest =>
    if 1 ≤ signs.length ∧ signs.length ≤ 6 ∧ isInlineBlank c then some rest else none
  | [] => none

/-- The text of a heading line, which has at least one character behind the first blank. -/
def headingText? (line : Text) : Option Text :=
  match headingRest? line with
  | some (c :: rest) => some (Text.trim (c :: rest))
  | _ => none

/-- The text with its heading lines emptied. -/
def withoutHeadings (t : Text) : Text :=
  Text.join ['\n'] ((t.splitOn '\n').map fun line => if (headingRest? line).isSome then [] else line)

/-- The text without fenced blocks and headings. -/
def strip (t : Text) : Text := withoutHeadings (t.without fencedBlock)

/-- Reads an opening or closing tag of any kind: `<`, a word character, and all up to `>`. -/
def anyTag : Reader Unit := fun _ t => do
  let t ← Text.after? ['<'] t
  if !t.head?.any isWordChar then none
  let (_, t) ← Text.readUpTo? '>' t
  return ((), t)

end PageLint.Prose
