import PageLint.Text.Scan

/-!
# Query blocks

A query block is a fenced block of SQL with a name: three backticks, `sql`, blanks, the name, a
line end, the text, three backticks. The text is the shortest that is followed by a fence.

* `QueryBlock.ofText`: the blocks of a page in order. Names may repeat.
-/

namespace PageLint

/-- A named, fenced block of SQL. -/
structure QueryBlock where
  /-- The name behind the opening fence. -/
  name : Text
  /-- The SQL between the fences. -/
  text : Text
  /-- The position of the opening fence, in bytes. -/
  offset : Nat
  deriving DecidableEq, Repr

namespace QueryBlock

/-- The mark that opens and closes a fenced block. -/
def fence : Text := ['`', '`', '`']

/-- Reads a block's name and SQL, from the opening fence to behind the closing one. -/
def reader : Reader (Text × Text) := fun _ t => do
  let t ← Text.after? (fence ++ ['s', 'q', 'l']) t
  let t ← Text.afterBlanks? t
  let (name, t) ← Text.readWord? t
  let t ← Text.after? ['\n'] t
  let (body, t) ← Text.splitAt? fence t
  return ((name, body), t)

/-- The blocks of the text, in order. -/
def ofText (t : Text) : List QueryBlock :=
  (t.hits reader).map fun h => ⟨h.value.1, h.value.2, h.start⟩

end QueryBlock

end PageLint
