import PageLint.Finding
import PageLint.Gap

/-!
# Reports as JSON

The outcome of a run and the table of gaps as JSON, with the keys of objects in a fixed order.

* `LintResult.json`, `Gap.Table.json`: the values.
* `Json.pretty`: their text over several lines.
-/

namespace PageLint

/-- A JSON value; the keys of an object keep their order. -/
inductive Json where
  /-- A flag. -/
  | bool (b : Bool)
  /-- A count. -/
  | natural (n : Nat)
  /-- A text. -/
  | string (s : String)
  /-- A list. -/
  | array (items : List Json)
  /-- Keys with values. -/
  | object (entries : List (String × Json))

namespace Json

/-- A digit of base sixteen. -/
def hexDigit (n : Nat) : Char := "0123456789abcdef".toList.getD n '0'

/-- A character of a text in quotes: quotes, backslashes and control characters are escaped. -/
def escape (c : Char) : Text :=
  match c with
  | '"' => ['\\', '"']
  | '\\' => ['\\', '\\']
  | '\n' => ['\\', 'n']
  | '\r' => ['\\', 'r']
  | '\t' => ['\\', 't']
  | '\x08' => ['\\', 'b']
  | '\x0c' => ['\\', 'f']
  | _ =>
    if c.toNat < 32 then
      ['\\', 'u', '0', '0', hexDigit (c.toNat / 16), hexDigit (c.toNat % 16)]
    else [c]

/-- A text in quotes. -/
def quote (s : String) : String := String.ofList ('"' :: s.toList.flatMap escape ++ ['"'])

/-- The start of a line at some depth. -/
def lineStart (depth : Nat) : String := "\n" ++ String.ofList (List.replicate (2 * depth) ' ')

mutual

/-- The text of a value that stands at some depth. -/
def prettyAt (depth : Nat) : Json → String
  | bool b => if b then "true" else "false"
  | natural n => toString n
  | string s => quote s
  | array [] => "[]"
  | array (item :: items) =>
    "[" ++ lineStart (depth + 1) ++ prettyAt (depth + 1) item ++ prettyItems (depth + 1) items ++
      lineStart depth ++ "]"
  | object [] => "\x7b\x7d"
  | object ((key, value) :: entries) =>
    "\x7b" ++ lineStart (depth + 1) ++ quote key ++ ": " ++ prettyAt (depth + 1) value ++
      prettyEntries (depth + 1) entries ++ lineStart depth ++ "\x7d"

/-- The text of the further items of a list. -/
def prettyItems (depth : Nat) : List Json → String
  | [] => ""
  | item :: items => "," ++ lineStart depth ++ prettyAt depth item ++ prettyItems depth items

/-- The text of the further entries of an object. -/
def prettyEntries (depth : Nat) : List (String × Json) → String
  | [] => ""
  | (key, value) :: entries =>
    "," ++ lineStart depth ++ quote key ++ ": " ++ prettyAt depth value ++
      prettyEntries depth entries

end

/-- The text of a value, with two spaces for each level of nesting. -/
def pretty (j : Json) : String := prettyAt 0 j

end Json

/-- A finding as JSON. -/
def Finding.json (f : Finding) : Json :=
  .object [("severity", .string f.severity.name), ("rule", .string f.rule),
    ("file", .string f.file), ("message", .string f.message)]

/-- The counts as JSON. -/
def Summary.json (s : Summary) : Json :=
  .object [("errors", .natural s.errors), ("warnings", .natural s.warnings),
    ("pages", .natural s.pages), ("data_files", .natural s.dataFiles)]

/-- The outcome of a run as JSON, with the verdict. -/
def LintResult.json (r : LintResult) (strict : Bool) : Json :=
  .object [("findings", .array (r.findings.map (·.json))), ("summary", r.summary.json),
    ("strict", .bool strict), ("passed", .bool (!r.summary.failed strict))]

/-- A range as JSON. -/
def Gap.Range.json (r : Gap.Range) : Json :=
  .object [("label", .string r.label), ("xMin", .string r.startIso), ("xMax", .string r.stopIso),
    ("sources", .array (r.sources.map .string))]

/-- A table of gaps as JSON. -/
def Gap.Table.json (t : Gap.Table) : Json :=
  .object [("universal", .array (t.universal.map (·.json))),
    ("source_only", .array (t.sourceOnly.map (·.json)))]

end PageLint
