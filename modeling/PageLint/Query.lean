import PageLint.Text.Scan

/-!
# What SQL reads

Fragments of SQL that rules look for. SQL is not parsed: a fragment counts wherever it stands.

* `Query.readsTable`: does SQL read a table?
* `Query.cappedCast`: a cast of a column to a number.
* `Query.quotedCast`: a cast of a column with a blank in its name.
-/

namespace PageLint.Query

/-- Does `p` hold behind one or more of the blanks at the head of the text? -/
def behindBlanks (p : Text → Bool) : Text → Bool
  | [] => false
  | c :: t => isSpace c && (p t || behindBlanks p t)

/-- Does the text begin with the table's name, up to a word boundary? -/
def namesTable (table : String) (t : Text) : Bool :=
  match Text.after? table.toList t with
  | some rest => Text.atWordBoundary table.toList.getLast? rest
  | none => false

/-- Reads `FROM` or `JOIN` as the start of a word, blanks, and the table's name up to a word
boundary. -/
def tableReference (table : String) : Reader Unit := fun before t => do
  if before.any isWordChar then none
  let t ← (Text.after? "FROM".toList t).or (Text.after? "JOIN".toList t)
  if behindBlanks (namesTable table) t then return ((), t) else none

/-- Does the SQL read the table? -/
def readsTable (sql : Text) (table : String) : Bool := sql.any (tableReference table)

/-- Reads a cast of the quoted column to a number, with or without the name of a table and a point
before the column. -/
def cappedCast (column : String) : Reader Unit := fun _ t => do
  let t ← Text.after? "TRY_CAST(".toList t
  let unqualified := do
    let (_, t) ← Text.readWord? t
    Text.after? ['.'] t
  let t ← Text.after? (['"'] ++ column.toList ++ "\" AS DOUBLE)".toList) (unqualified.getD t)
  return ((), t)

/-- Reads a cast of a quoted name that holds a blank which is not its first character. -/
def quotedCast : Reader Unit := fun _ t => do
  let t ← Text.after? "CAST".toList t
  let t ← Text.after? "(\"".toList (t.dropWhile isSpace)
  let (name, t) ← Text.readUpTo? '"' t
  if !(name.drop 1).any isSpace then none
  let t ← Text.afterBlanks? t
  let t ← Text.after? "AS".toList t
  return ((), t)

/-- Reads the parsing of the date column with full month names. -/
def fullMonthParse : Reader Unit := fun _ t => do
  let t ← Text.after? "STRPTIME(Date,".toList t
  let t ← Text.after? "'%B %Y')".toList (t.dropWhile isSpace)
  return ((), t)

/-- Reads a division by an aggregate. -/
def aggregateDivisor : Reader Unit := fun _ t => do
  let t ← Text.after? ['/'] t
  let t := t.dropWhile isSpace
  let t ← ["SUM", "AVG", "COUNT"].findSome? fun name => Text.after? name.toList t
  let t ← Text.after? ['('] (t.dropWhile isSpace)
  return ((), t)

end PageLint.Query
