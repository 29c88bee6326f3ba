import PageLint.Checker
import PageLint.Markup.Page
import PageLint.Text.Escaped

/-!
# Rules about the safety of SQL

What the SQL of a page must do about the flaws of the source data.

* `Rule.querySafety`: casts, caps, dates, nulls, divisions, unreliable and swapped columns, retired
  names.
-/

namespace PageLint.Rule

/-- The texts of at least `n` bytes, if there are as many, before the fragments of SQL. -/
def textsBefore {α : Type} (read : Reader α) (n : Nat) (sql : Text) : List Text :=
  (sql.hits read).map fun h => Text.lastBytes n h.behind

/-- Is there a cast that does not tolerate failure, given what stands before each? -/
def hasBareCast (heads : List Text) : Bool := heads.any (· != "TRY_".toList)

/-- A notice for each cast of the capped column without a cap around it, given what stands before
each. -/
def uncappedCasts (column : String) (heads : List Text) : List Notice :=
  heads.filterMap fun head =>
    if head.has "LEAST(" then none
    else
      some (.error "SQL_VALUE_CAP" ("\"" ++ column ++
        "\" not wrapped in LEAST(..., 100.0); the source reports values above 100% in some months"))

/-- The name in double quotes. -/
def quoted (name : String) : String := "\"" ++ name ++ "\""

/-- The notice `n` if the condition holds. -/
def noticeIf (condition : Bool) (n : Notice) : List Notice := if condition then [n] else []

/-- A notice for each column that must not be queried. -/
def unreliableColumns (tables : RuleTables) (sql : Text) : List Notice :=
  tables.unreliableColumns.filterMap fun u =>
    if sql.has (quoted u.column) then
      let reason := if u.reason.isEmpty then "" else ": " ++ u.reason
      some (.error "SQL_UNRELIABLE_COLUMN" (quoted u.column ++ " is structurally unreliable" ++
        reason ++ ". Use " ++ quoted u.replacement ++ " instead."))
    else none

/-- A notice for each retired name. -/
def deprecatedNames (tables : RuleTables) (sql : Text) : List Notice :=
  tables.deprecatedNames.filterMap fun (bad, good) =>
    if sql.has bad then
      some (.error "SQL_DEPOT_NAME" ("Deprecated name '" ++ (Text.escaped bad.toList).str ++
        "' in SQL; use '" ++ good ++ "'"))
    else none

/-- The notices about the SQL of query blocks, given what stands before the casts of names with a
blank and before the casts of each capped column. -/
def queryNotices (checker : Checker) (sql : Text) (casts : List Text)
    (capped : List (String × List Text)) : List Notice :=
  let tables := checker.tables
  noticeIf (hasBareCast casts) (.warn "SQL_TRY_CAST"
    "Bare CAST(\"...\") on a quoted column; use TRY_CAST to handle null or unparseable cells in extracted CSVs") ++
  capped.flatMap (fun (column, heads) => uncappedCasts column heads) ++
  noticeIf (sql.any Query.fullMonthParse) (.error "SQL_DATE_FORMAT"
    "Use STRPTIME(Date, '%b %Y') with abbreviated month, not '%B %Y'") ++
  noticeIf (checker.queriesPrimary sql && !sql.has tables.nullGuard) (.error "SQL_NULL_GUARD"
    ("Query against a primary table is missing 'WHERE " ++ tables.nullGuard ++
      "'; null rows exist and will corrupt aggregates")) ++
  noticeIf (sql.any Query.aggregateDivisor && !sql.has "NULLIF(") (.warn "SQL_NULLIF"
    "SQL divides by an aggregate without NULLIF; add NULLIF(denominator, 0) to guard against division by zero") ++
  unreliableColumns tables sql ++
  noticeIf ((tables.swappedColumns.any fun c => sql.has (quoted c)) && !sql.has "GREATEST(")
    (.error "SQL_COLUMN_SWAP" ("Columns " ++
      String.intercalate " / " (tables.swappedColumns.map quoted) ++
      " are used without GREATEST/LEAST correction; some periods have them swapped. Wrap them in GREATEST(...) and LEAST(...) to reconstruct correct values.")) ++
  deprecatedNames tables sql

/-- The rules for the SQL of a page that has query blocks. -/
def querySafety (checker : Checker) (page : Page) : List Notice :=
  if page.queries.isEmpty then []
  else
    queryNotices checker page.sql (textsBefore Query.quotedCast 4 page.sql)
      (checker.tables.cappedColumns.map fun column =>
        (column, textsBefore (Query.cappedCast column) 7 page.sql))

end PageLint.Rule
