import PageLint.Finding
import PageLint.Gap
import PageLint.Report.Styled
import PageLint.Report.Wrap

/-!
# Reports for people

The report of a run groups findings by file and wraps their messages; the table of gaps has one line
for each range. Both are spans, so that colour changes nothing but colour.

* `LintResult.report`: the report of a run.
* `Gap.Table.listing`: the table of gaps.
-/

namespace PageLint

namespace Report

/-- The width of a report in characters. -/
def width : Nat := 68

/-- A character as often as the report is wide. -/
def ruler (c : Char) : String := String.ofList (List.replicate width c)

/-- A line without style. -/
def line (s : String) : List Span := [.plain s, .newline]

/-- The sign of a severity. -/
def icon : Severity → Span
  | .error => .styled (.strong .red) "✗"
  | .warn => .styled (.strong .yellow) "⚠"

/-- The number of characters before the message of a rule. -/
def indent (rule : String) : Nat := rule.length + 7

/-- The lines of a message beside the identifier of its rule. -/
def messageLines (rule message : String) : List Text :=
  Text.wrap message.toList (Nat.max (width - indent rule) 20)

/-- The lines of a finding. -/
def findingLines (f : Finding) : List Span :=
  match messageLines f.rule f.message with
  | [] => []
  | first :: rest =>
    [.plain "  ", icon f.severity, .plain " ", .styled .dimmed ("[" ++ f.rule ++ "]"),
      .plain (" " ++ first.str), .newline] ++
    rest.flatMap fun l =>
      line (String.ofList (List.replicate (indent f.rule) ' ') ++ l.str)

/-- The lines about one file. -/
def fileLines (group : String × List Finding) : List Span :=
  [.newline, .styled .bold group.1, .newline] ++ group.2.flatMap findingLines

end Report

open Report

/-- The word for the outcome of a run. -/
def Summary.verdict (s : Summary) (strict : Bool) : Span :=
  if s.failed strict then .styled (.strong .red) "FAIL" else .styled (.strong .green) "PASS"

/-- The report of a run. -/
def LintResult.report (r : LintResult) (strict : Bool) : List Span :=
  line (ruler '═') ++
  [.styled .bold ("vizlint · " ++ toString r.summary.pages ++ " pages · " ++
    toString r.summary.dataFiles ++ " data files"), .newline] ++
  line (ruler '═') ++
  (if r.findings.isEmpty then [.newline, .styled (.strong .green) "✓ All checks passed", .newline] else []) ++
  (Finding.groups r.findings).flatMap fileLines ++
  [.newline] ++ line (ruler '─') ++
  [r.summary.verdict strict] ++
  line (" · " ++ toString r.summary.errors ++ " error(s) · " ++ toString r.summary.warnings ++
    " warning(s)") ++
  if strict then line "(--strict: warnings treated as errors)" else []

/-- The line about a range. -/
def Gap.Range.line (r : Gap.Range) : String :=
  let fill := String.ofList (List.replicate (20 - r.label.length) ' ')
  "  " ++ r.label ++ fill ++ " xMin='" ++ r.startIso ++ "' xMax='" ++ r.stopIso ++ "'  [" ++
    String.intercalate ", " r.sources ++ "]"

/-- The lines about some ranges under a title. -/
def Gap.section (title : String) (ranges : List Gap.Range) : List Span :=
  [.styled .bold title, .newline] ++
  if ranges.isEmpty then Report.line "  (none)" else ranges.flatMap fun r => Report.line r.line

/-- The table of gaps. -/
def Gap.Table.listing (t : Gap.Table) : List Span :=
  Gap.section "Universal gaps" t.universal ++ Gap.section "Source-only gaps" t.sourceOnly

end PageLint
