import PageLint.KnownIssues
import PageLint.Query
import PageLint.Pattern.Names

/-!
# Checkers

A checker holds the rule tables together with what is derived from them once: the merged gaps, the
index of known issues and the patterns of the markers. Pages and data are checked against it.

* `RuleTables.compile`: reads all patterns of the tables.
* `Checker.ofTables`: the checker for some tables; it fails on a pattern that cannot be read.
* `Checker.queriesTable`, `Checker.queriesPrimary`: which of the configured tables SQL reads.

## Main results

* `Checker.exists_of_ofTables`: the parts of a checker.
-/

namespace PageLint

/-- Rule tables with what is derived from them. -/
structure Checker where
  /-- The tables. -/
  tables : RuleTables
  /-- The merged gaps. -/
  gaps : Gap.Table
  /-- The known issues. -/
  known : KnownIssues
  /-- The markers, each with its pattern if it has one. -/
  markers : List (Marker × Option Pattern)

/-- A pattern of a rule cannot be read. -/
structure PatternError where
  /-- The identifier of the rule. -/
  rule : String
  deriving DecidableEq, Repr

/-- The pattern of a rule that `read` reads in a text. -/
def Pattern.compile (read : Text → Option Pattern) (rule : String) (t : Text) :
    Except PatternError Pattern :=
  match read t with
  | some pattern => .ok pattern
  | none => .error ⟨rule⟩

/-- The pattern of a marker, if it has one. -/
def Marker.pattern? (read : Text → Option Pattern) (m : Marker) :
    Except PatternError (Option Pattern) :=
  match m.contentPattern with
  | none => .ok none
  | some p => (Pattern.compile read m.rule p.toList).map some

namespace RuleTables

/-- The markers with their patterns, once all patterns of the tables can be read: those for the capped
columns, those of the markers, and those for the watched tables, each table once. What the patterns
for columns and tables match is said by `Query.cappedCast` and `Query.readsTable`. -/
def compile (read : Text → Option Pattern) (tables : RuleTables) :
    Except PatternError (List (Marker × Option Pattern)) := do
  let _ ← tables.cappedColumns.mapM fun column =>
    Pattern.compile read "SQL_VALUE_CAP" (Pattern.castText column)
  let markers ← tables.markers.mapM fun m => do return (m, ← m.pattern? read)
  let watched := tables.primaryTables ++ tables.gaps.map (·.source)
  let _ ← watched.eraseDups.mapM fun table =>
    Pattern.compile read "SQL_NULL_GUARD" (Pattern.tableText table)
  return markers

end RuleTables

namespace Checker

/-- The checker for some tables whose patterns are read by `read`. -/
def ofTablesWith (read : Text → Option Pattern) (tables : RuleTables) :
    Except PatternError Checker := do
  let markers ← tables.compile read
  return { tables
           gaps := Gap.Table.ofIntervals tables.gaps
           known := KnownIssues.ofList tables.knownIssues
           markers }

/-- The checker for some tables. -/
def ofTables (tables : RuleTables) : Except PatternError Checker := ofTablesWith Pattern.ofText? tables

/-- A checker for some tables holds what is derived from them. -/
theorem exists_of_ofTables {tables : RuleTables} {checker : Checker}
    (h : ofTables tables = .ok checker) :
    ∃ markers, checker = ⟨tables, Gap.Table.ofIntervals tables.gaps,
      KnownIssues.ofList tables.knownIssues, markers⟩ := by
  simp only [ofTables, ofTablesWith, bind, Except.bind] at h
  split at h
  · cases h
  · exact ⟨_, (Except.ok.inj h).symm⟩

variable (checker : Checker)

/-- The tables that SQL is searched for. -/
def watchedTables : List String :=
  checker.tables.primaryTables ++ checker.tables.gaps.map (·.source)

/-- Does the SQL read the table? A table that is neither primary nor the source of a gap is not
looked for. -/
def queriesTable (sql : Text) (table : String) : Bool :=
  checker.watchedTables.contains table && Query.readsTable sql table

/-- Does the SQL read a primary table? -/
def queriesPrimary (sql : Text) : Bool :=
  checker.tables.primaryTables.any (checker.queriesTable sql)

end Checker

end PageLint
