import PageLint.RuleTables.Basic
import Std.Data.HashMap

/-!
# Known issues

The accepted deviations of a configuration, indexed by file, date, entity and column. A look-up goes
from the specific to the general: the exact date and entity, then any entity on the date, then the
entity on any date, then any entity on any date.

* `KnownIssues.ofList`: the index of a list; of two issues with one key the first counts.
* `KnownIssues.find?`: the issue that covers a cell.
-/

namespace PageLint

/-- The file, date, entity and column of a known issue. -/
abbrev KnownIssue.Key := String × String × String × String

/-- The key an issue is filed under. -/
def KnownIssue.key (i : KnownIssue) : KnownIssue.Key := (i.file, i.date, i.entity, i.column)

/-- What stands for all dates or all entities. -/
def KnownIssue.wildcard : String := "*"

/-- Known issues with their index. -/
structure KnownIssues where
  /-- The issues as they were declared. -/
  items : List KnownIssue
  /-- The first issue for each key. -/
  index : Std.HashMap KnownIssue.Key KnownIssue

namespace KnownIssues

/-- The index of a list of issues. -/
def indexOf (issues : List KnownIssue) : Std.HashMap KnownIssue.Key KnownIssue :=
  issues.foldl (fun index i => index.insertIfNew i.key i) ∅

/-- The issues of a list. -/
def ofList (issues : List KnownIssue) : KnownIssues := ⟨issues, indexOf issues⟩

/-- The keys under which an issue for a cell may be filed, the most specific first. -/
def keys (file date entity column : String) : List KnownIssue.Key :=
  [(file, date, entity, column), (file, date, KnownIssue.wildcard, column),
   (file, KnownIssue.wildcard, entity, column),
   (file, KnownIssue.wildcard, KnownIssue.wildcard, column)]

/-- The issue that covers a cell. -/
def find? (known : KnownIssues) (file date entity column : String) : Option KnownIssue :=
  (keys file date entity column).findSome? fun key => known.index[key]?

/-- Is the cell covered by an issue? -/
def covers (known : KnownIssues) (file date entity column : String) : Bool :=
  (known.find? file date entity column).isSome

end KnownIssues

end PageLint
