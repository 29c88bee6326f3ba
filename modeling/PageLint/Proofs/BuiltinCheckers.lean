import PageLint.Proofs.NamePatterns
import PageLint.RuleTables.Builtin

/-!
# Checkers for the built-in tables

The patterns of the built-in markers are texts that have to be read before there is a checker. Without
the markers the built-in tables make one at once, and without their gaps and known issues they make one
that explains nothing of what is found.

* `Checker.unmarked`: the checker for the built-in tables without markers.
* `Checker.plain`: the same without gaps and known issues.

## Main results

* `Checker.ofTables_unmarked`, `Checker.ofTables_plain`: both tables make their checker.
-/

namespace PageLint

namespace RuleTables

/-- The built-in tables without markers. -/
def unmarked : RuleTables := { builtin with markers := [] }

/-- The built-in tables without markers, gaps and known issues. -/
def plain : RuleTables := { unmarked with gaps := [], knownIssues := [] }

/-- The names in the built-in tables are short, so that patterns for them are read. -/
theorem readsNames_unmarked : unmarked.ReadsNames Pattern.ofText? :=
  readsNames_ofText? (by decide +kernel) (by decide +kernel)

/-- The names are short without the gaps, too. -/
theorem readsNames_plain : plain.ReadsNames Pattern.ofText? :=
  readsNames_ofText? (by decide +kernel) (by decide +kernel)

end RuleTables

namespace Checker

/-- The checker for the built-in tables without markers. -/
def unmarked : Checker := ofUnmarked RuleTables.unmarked

/-- The checker for the built-in tables without markers, gaps and known issues. -/
def plain : Checker := ofUnmarked RuleTables.plain

/-- The built-in tables without markers make a checker. -/
theorem ofTables_unmarked : ofTables RuleTables.unmarked = .ok unmarked :=
  ofTables_ofUnmarked RuleTables.readsNames_unmarked rfl

/-- The built-in tables without markers, gaps and known issues make a checker. -/
theorem ofTables_plain : ofTables RuleTables.plain = .ok plain :=
  ofTables_ofUnmarked RuleTables.readsNames_plain rfl

end Checker

end PageLint
