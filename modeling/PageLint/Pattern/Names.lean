import PageLint.Pattern.Reading

/-!
# Patterns for names

The patterns that SQL is searched with for a configured name. A name stands for itself in them,
whatever characters it has: those with a meaning of their own are escaped.

* `Pattern.escape`: the text of a pattern for a name.
* `Pattern.castText`: the text of the pattern for the cast of a column to a number.
* `Pattern.tableText`: the text of the pattern for a reference to a table.
-/

namespace PageLint.Pattern

/-- The text of a pattern for a name. -/
def escape : (name : Text) → Text
  | [] => []
  | c :: name => if isMeta c then '\\' :: c :: escape name else c :: escape name

/-- The text of the pattern for a cast of the quoted column to a number, with or without the name of a
table and a point before the column. -/
def castText (column : String) : Text :=
  "TRY_CAST\\((?:\\w+\\.)?\"".toList ++ (escape column.toList ++ "\" AS DOUBLE\\)".toList)

/-- The text of the pattern for `FROM` or `JOIN` and the name of the table, as whole words. -/
def tableText (table : String) : Text :=
  "\\b(?:FROM|JOIN)\\s+".toList ++ (escape table.toList ++ "\\b".toList)

end PageLint.Pattern
