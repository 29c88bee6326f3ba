import PageLint.DataCheck.DataSet

/-!
# Reference files

Files that are checked on their own: for their columns, for values that have to occur in them, and
for the number of their rows.

* `DataCheck.tableNotices`: what there is to say about the table in a reference file.
* `DataCheck.reference`: the findings about a reference file.
-/

namespace PageLint

/-- Is this number of rows accepted? -/
def RowCount.accepts (c : RowCount) (n : Nat) : Bool :=
  if c.exact then n == c.expected else n ≤ c.expected

namespace DataCheck

/-- Texts in ascending order; a text that is there twice stays twice. -/
def sortedTexts (ts : List String) : List String := ts.mergeSort fun a b => !decide (b < a)

/-- What to say about columns that are not there. -/
def columnNotices (r : ReferenceFile) (t : Table) : List Notice :=
  match r.requiredColumns.filter fun c => (t.column? c).isNone with
  | [] => []
  | missing =>
    [.error r.rule (r.file ++ " missing columns: " ++ String.intercalate ", " (sortedTexts missing))]

/-- The expected values that occur in no row. -/
def missingValues (e : ValueExpectation) (t : Table) : List String :=
  let present := t.distinct e.column
  e.values.filter (!present.contains ·)

/-- What to say about expected values that do not occur. -/
def valueNotices (r : ReferenceFile) (t : Table) (e : ValueExpectation) : List Notice :=
  let missing := missingValues e t
  match e.mode with
  | .each => missing.map fun value =>
      ⟨e.severity, r.rule,
        e.message.getD (r.file ++ " missing " ++ e.column ++ " '" ++ value ++ "' rows")⟩
  | .all =>
    if missing.isEmpty then []
    else
      [⟨e.severity, r.rule, e.message.getD (r.file ++ " missing " ++ e.column ++ " values: " ++
        String.intercalate ", " (sortedTexts missing))⟩]

/-- What to say about the number of rows. -/
def rowNotices (r : ReferenceFile) (t : Table) (c : RowCount) : List Notice :=
  let n := t.rows.length
  if c.accepts n then []
  else
    let note := (c.note.map fun s => " (" ++ s ++ ")").getD ""
    [.warn r.rule (r.file ++ " has " ++ toString n ++ " rows; expected " ++ toString c.expected ++
      note)]

/-- What there is to say about the table in a reference file. -/
def tableNotices (r : ReferenceFile) (t : Table) : List Notice :=
  columnNotices r t ++ r.expect.flatMap (valueNotices r t) ++ r.rows.toList.flatMap (rowNotices r t)

/-- The findings about a reference file. -/
def reference (set : DataSet) (r : ReferenceFile) : List Finding :=
  match set.table? r.file with
  | some t => (tableNotices r t).map (set.report r.file)
  | none =>
    if r.required && set.isMissing r.file then
      let hint := (r.hint.map fun h => "; " ++ h).getD ""
      [set.report r.file (.error r.rule (r.file ++ " not found" ++ hint))]
    else []

end DataCheck

end PageLint
