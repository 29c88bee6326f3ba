import Mathlib.Data.List.Perm.Basic
import Mathlib.Logic.Relation
import PageLint.Lint
import PageLint.Proofs.BuiltinCheckers
import PageLint.Proofs.ByteOrder
import PageLint.Proofs.Ordering

/-!
# The order of a report

Pages are checked side by side. Whenever the check of a page is done its findings are collected as
a whole, and the findings about data follow when no page is left. `Scan.Step` is one such step, in
which any of the waiting pages may be the next, and `Scan.Run` is any number of steps.

What is collected depends on the order of the pages (`Scan.run_iff`); what is reported does not:
all findings of a page carry its path (`Checker.file_of_mem_checkPage`), and sorting by file keeps
the findings of each file in their order (`Finding.filter_sorted`).

## Main results

* `Scan.run_iff`: the complete runs collect the pages in every order, each page as a whole.
* `Scan.sorted_of_run`: **the report is the same for all runs**, ascending by the bytes of the file
  names, and has the findings of each file rule by rule.
* `Checker.findings_of_lint`: what a run over a file tree reports is what every scan of its pages
  reports.
-/

namespace PageLint

/-! ### Findings by file -/

namespace Finding

/-- Sorting by file loses nothing and doubles nothing. -/
theorem sorted_perm (fs : List Finding) : (sorted fs).Perm fs :=
  List.mergeSort_perm fs _

/-- Sorting by file keeps the findings of each file in their order. -/
theorem filter_sorted (fs : List Finding) (file : String) :
    (sorted fs).filter (·.file == file) = fs.filter (·.file == file) :=
  KeyOrder.filter_mergeSort (·.file) fs file

/-- A sorted list ascends by file. -/
theorem pairwise_sorted (fs : List Finding) : (sorted fs).Pairwise fun f g => f.file ≤ g.file :=
  KeyOrder.pairwise_mergeSort (·.file) fs

/-- Lists with the same findings of each file, in the same order, are sorted to the same list. -/
theorem sorted_congr {fs gs : List Finding}
    (h : ∀ file, fs.filter (·.file == file) = gs.filter (·.file == file)) :
    sorted fs = sorted gs := by
  refine KeyOrder.eq_of_filter_eq (pairwise_sorted fs) (pairwise_sorted gs) ?_
  intro file
  rw [filter_sorted, filter_sorted, h]

end Finding

namespace Checker

variable (checker : Checker)

/-- The findings about some pages, page by page. -/
def checkPages (pages : List (String × Text)) : List Finding :=
  pages.flatMap fun (path, text) => checker.checkPage path text

variable {checker}

/-- All findings about a page carry its path, whatever the rule. -/
theorem file_of_mem_checkPage {path : String} {text : Text} {f : Finding}
    (h : f ∈ checker.checkPage path text) : f.file = path := by
  obtain ⟨rule, -, hf⟩ := List.mem_flatMap.mp h
  obtain ⟨notice, -, rfl⟩ := List.mem_map.mp hf
  rfl

/-- All findings about a page are findings of its file. -/
theorem filter_checkPage (path : String) (text : Text) :
    (checker.checkPage path text).filter (·.file == path) = checker.checkPage path text := by
  refine List.filter_eq_self.mpr ?_
  intro f hf
  exact beq_iff_eq.mpr (file_of_mem_checkPage hf)

/-- Pages have no findings of other files. -/
theorem filter_checkPages_of_notMem {pages : List (String × Text)} {file : String}
    (h : file ∉ pages.map (·.1)) : (checker.checkPages pages).filter (·.file == file) = [] := by
  refine List.filter_eq_nil_iff.mpr ?_
  intro f hf hfile
  obtain ⟨page, hpage, hf⟩ := List.mem_flatMap.mp hf
  rw [file_of_mem_checkPage hf, beq_iff_eq] at hfile
  exact h (List.mem_map.mpr ⟨page, hpage, hfile⟩)

/-- Of pages with different paths, each has the findings of its file. -/
theorem filter_checkPages_of_mem {pages : List (String × Text)} (hpaths : (pages.map (·.1)).Nodup)
    {page : String × Text} (h : page ∈ pages) :
    (checker.checkPages pages).filter (·.file == page.1) = checker.checkPage page.1 page.2 := by
  obtain ⟨before, after, rfl⟩ := List.append_of_mem h
  have hsplit : checker.checkPages (before ++ page :: after) = checker.checkPages before ++
      (checker.checkPage page.1 page.2 ++ checker.checkPages after) := by
    rw [checkPages, List.flatMap_append, List.flatMap_cons]
    rfl
  rw [List.map_append, List.map_cons, List.nodup_append] at hpaths
  obtain ⟨-, hafter, hbefore⟩ := hpaths
  have hnone : (checker.checkPages after).filter (·.file == page.1) = [] :=
    filter_checkPages_of_notMem (List.nodup_cons.mp hafter).1
  have hnone' : (checker.checkPages before).filter (·.file == page.1) = [] := by
    refine filter_checkPages_of_notMem ?_
    intro hmem
    exact hbefore page.1 hmem page.1 List.mem_cons_self rfl
  rw [hsplit, List.filter_append, List.filter_append, filter_checkPage, hnone, hnone',
    List.nil_append, List.append_nil]

/-- For pages with different paths, the findings of each file do not depend on the order of the
pages. -/
theorem filter_checkPages_perm {pages order : List (String × Text)}
    (hpaths : (pages.map (·.1)).Nodup) (h : order.Perm pages) (file : String) :
    (checker.checkPages order).filter (·.file == file) =
      (checker.checkPages pages).filter (·.file == file) := by
  have hpaths' : (order.map (·.1)).Nodup := (h.map (·.1)).nodup_iff.mpr hpaths
  by_cases hmem : file ∈ pages.map (·.1)
  · obtain ⟨page, hpage, rfl⟩ := List.mem_map.mp hmem
    have hpage' : page ∈ order := h.mem_iff.mpr hpage
    rw [filter_checkPages_of_mem hpaths hpage, filter_checkPages_of_mem hpaths' hpage']
  · have hmem' : file ∉ order.map (·.1) := mt (h.map (·.1)).mem_iff.mp hmem
    rw [filter_checkPages_of_notMem hmem, filter_checkPages_of_notMem hmem']

end Checker

/-! ### Scans -/

/-- Where a scan stands. -/
structure Scan where
  /-- The pages whose findings are not collected yet. -/
  waiting : List (String × Text)
  /-- The findings about data, as long as they are not collected. -/
  data : Option (List Finding)
  /-- The findings that are collected. -/
  collected : List Finding

namespace Scan

/-- Before the first page. -/
def start (pages : List (String × Text)) (data : List Finding) : Scan := ⟨pages, some data, []⟩

/-- Behind the last page and the data. -/
def finish (items : List Finding) : Scan := ⟨[], none, items⟩

/-- One step of a scan. Which of the waiting pages is the next is open. -/
inductive Step (checker : Checker) : Scan → Scan → Prop where
  /-- The findings about one of the pages are collected. -/
  | page (before after : List (String × Text)) (path : String) (text : Text)
      (data : Option (List Finding)) (collected : List Finding) :
      Step checker ⟨before ++ (path, text) :: after, data, collected⟩
        ⟨before ++ after, data, collected ++ checker.checkPage path text⟩
  /-- The findings about data are collected, when no page waits. -/
  | data (data collected : List Finding) :
      Step checker ⟨[], some data, collected⟩ ⟨[], none, collected ++ data⟩

/-- Any number of steps. -/
abbrev Run (checker : Checker) : Scan → Scan → Prop := Relation.ReflTransGen (Step checker)

variable {checker : Checker} {pages : List (String × Text)} {data : List Finding} {s s' : Scan}

/-- What every step keeps: some pages are collected, one behind the other, the others wait, and the
data comes behind the last. -/
def Collects (checker : Checker) (pages : List (String × Text)) (data : List Finding) (s : Scan) :
    Prop :=
  ∃ order : List (String × Text), (order ++ s.waiting).Perm pages ∧
    (s.data = some data ∧ s.collected = checker.checkPages order ∨
      s.data = none ∧ s.waiting = [] ∧ s.collected = checker.checkPages order ++ data)

/-- Before the first page nothing is collected. -/
theorem collects_start : Collects checker pages data (start pages data) :=
  ⟨[], List.Perm.refl _, Or.inl ⟨rfl, rfl⟩⟩

/-- One step keeps the invariant. -/
theorem Step.collects (h : Step checker s s') (hs : Collects checker pages data s) :
    Collects checker pages data s' := by
  obtain ⟨order, hperm, hdata⟩ := hs
  cases h with
  | page before after path text d collected =>
      refine ⟨order ++ [(path, text)], ?_, ?_⟩
      · have hmove : ((path, text) :: (before ++ after)).Perm (before ++ (path, text) :: after) :=
          List.perm_middle.symm
        refine List.Perm.trans ?_ hperm
        rw [List.append_assoc]
        exact List.Perm.append_left order hmove
      · rcases hdata with ⟨hd, hcollected⟩ | ⟨-, hwaiting, -⟩
        · refine Or.inl ⟨hd, ?_⟩
          rw [Checker.checkPages, List.flatMap_append, List.flatMap_singleton]
          exact congrArg (· ++ checker.checkPage path text) hcollected
        · exact absurd hwaiting (by simp)
  | data d collected =>
      rcases hdata with ⟨hd, hcollected⟩ | ⟨hd, -, -⟩
      · refine ⟨order, hperm, Or.inr ⟨rfl, rfl, ?_⟩⟩
        rw [← Option.some.inj hd]
        exact congrArg (· ++ d) hcollected
      · cases hd

/-- A run keeps the invariant. -/
theorem Run.collects (h : Run checker (start pages data) s) : Collects checker pages data s := by
  induction h with
  | refl => exact collects_start
  | tail _ hstep ih => exact hstep.collects ih

/-- The waiting pages can be collected in every order. -/
theorem run_of_perm {order waiting : List (String × Text)} (h : order.Perm waiting)
    (collected : List Finding) :
    Run checker ⟨waiting, some data, collected⟩
      (finish (collected ++ checker.checkPages order ++ data)) := by
  induction order generalizing waiting collected with
  | nil =>
      obtain rfl := h.nil_eq
      rw [show checker.checkPages [] = [] from rfl, List.append_nil]
      exact Relation.ReflTransGen.single (Step.data data collected)
  | cons page order ih =>
      obtain ⟨before, after, rfl⟩ := List.append_of_mem (h.subset List.mem_cons_self)
      have hrest : order.Perm (before ++ after) := (h.trans List.perm_middle).cons_inv
      have hstep : Step checker ⟨before ++ page :: after, some data, collected⟩
          ⟨before ++ after, some data, collected ++ checker.checkPage page.1 page.2⟩ :=
        Step.page before after page.1 page.2 (some data) collected
      have hrun := ih hrest (collected ++ checker.checkPage page.1 page.2)
      rw [List.append_assoc collected] at hrun
      exact Relation.ReflTransGen.head hstep hrun

/-- The complete runs are those that collect the pages in any order and the data behind them. -/
theorem run_iff {items : List Finding} :
    Run checker (start pages data) (finish items) ↔
      ∃ order : List (String × Text), order.Perm pages ∧
        items = checker.checkPages order ++ data := by
  constructor
  · intro h
    obtain ⟨order, hperm, ⟨hd, -⟩ | ⟨-, -, hitems⟩⟩ := h.collects
    · cases hd
    · exact ⟨order, by simpa [finish] using hperm, hitems⟩
  · rintro ⟨order, hperm, rfl⟩
    exact run_of_perm hperm []

/-- For pages with different paths, every complete run collects findings that are sorted to the
list of the pages in their order. -/
theorem sorted_collected {items : List Finding} (hpaths : (pages.map (·.1)).Nodup)
    (hrun : Run checker (start pages data) (finish items)) :
    Finding.sorted items = Finding.sorted (checker.checkPages pages ++ data) := by
  obtain ⟨order, hperm, rfl⟩ := run_iff.mp hrun
  refine Finding.sorted_congr ?_
  intro file
  rw [List.filter_append, List.filter_append, Checker.filter_checkPages_perm hpaths hperm]

/-- **The report does not depend on the order in which checks of pages are done.** For pages with
different paths, every complete run collects findings that are sorted to one list. No finding is
lost or doubled in it, it ascends by the bytes of the file names, and it has for each page the
findings of the rules in the order in which they run, all about the path of the page, and behind
them the findings about data of that file. -/
theorem sorted_of_run {items : List Finding} (hpaths : (pages.map (·.1)).Nodup)
    (hrun : Run checker (start pages data) (finish items)) :
    Finding.sorted items = Finding.sorted (checker.checkPages pages ++ data) ∧
    (Finding.sorted items).Perm (checker.checkPages pages ++ data) ∧
    ((Finding.sorted items).Pairwise fun f g =>
      Text.utf8 f.file.toList ≤ Text.utf8 g.file.toList) ∧
    (∀ page ∈ pages, (∀ f ∈ checker.checkPage page.1 page.2, f.file = page.1) ∧
      (Finding.sorted items).filter (·.file == page.1) =
        (PageRule.all.flatMap fun rule =>
          checker.findingsOf rule ⟨page.1, Page.normalizeNewlines page.2⟩) ++
        data.filter (·.file == page.1)) ∧
    ∀ file, file ∉ pages.map (·.1) →
      (Finding.sorted items).filter (·.file == file) = data.filter (·.file == file) := by
  rw [sorted_collected hpaths hrun]
  refine ⟨rfl, Finding.sorted_perm _, ?_, ?_, ?_⟩
  · exact (Finding.pairwise_sorted _).imp Text.utf8_le_iff.mpr
  · intro page hpage
    refine ⟨fun f hf => Checker.file_of_mem_checkPage hf, ?_⟩
    rw [Finding.filter_sorted, List.filter_append, Checker.filter_checkPages_of_mem hpaths hpage]
    rfl
  · intro file hfile
    rw [Finding.filter_sorted, List.filter_append, Checker.filter_checkPages_of_notMem hfile,
      List.nil_append]

/-- Two pages whose checks are done in the order of their names, and data in the file of one: the
report is that of the order in which the pages were given. -/
theorem sorted_of_run_swapped :
    let checker := Checker.unmarked
    let first := ("fleet.md", "# Fleet\n".toList)
    let second := ("cost.md", "# Cost\n".toList)
    let data := [(Notice.warn "DATA_ROWS" "few rows").inFile "cost.md"]
    let items := checker.checkPages [second, first] ++ data
    ([first, second].map (·.1)).Nodup ∧
      Run checker (start [first, second] data) (finish items) ∧
      Finding.sorted items = Finding.sorted (checker.checkPages [first, second] ++ data) := by
  intro checker first second data items
  have hpaths : ([first, second].map (·.1)).Nodup := by decide
  have hrun : Run checker (start [first, second] data) (finish items) :=
    run_iff.mpr ⟨[second, first], List.Perm.swap first second [], rfl⟩
  exact ⟨hpaths, hrun, (sorted_of_run hpaths hrun).1⟩

end Scan

namespace Checker

/-- A run over a file tree reports the findings about its pages and about its data, sorted by file.
When the pages are shown with different paths, every scan of them reports the same. -/
theorem findings_of_lint {checker : Checker} {tree : FileTree} {inputs : Inputs}
    {result : LintResult} (h : checker.lint tree inputs = .ok result) :
    ∃ paths pages report, tree.pages? inputs.pages = .ok paths ∧
      (paths.mapM fun p => do return (p.display inputs.root, ← tree.readPage p)) = .ok pages ∧
      checker.checkData tree inputs.data inputs.root = .ok report ∧
      result.findings = Finding.sorted (checker.checkPages pages ++ report.findings) ∧
      ∀ items, (pages.map (·.1)).Nodup →
        Scan.Run checker (Scan.start pages report.findings) (Scan.finish items) →
        Finding.sorted items = result.findings := by
  simp only [lint, bind, Except.bind] at h
  split at h
  · cases h
  next paths hpaths =>
  split at h
  · cases h
  next pages hpages =>
  split at h
  · cases h
  next report hreport =>
  obtain rfl := Except.ok.inj h
  exact ⟨paths, pages, report, hpaths, hpages, hreport, rfl,
    fun _ hnodup hrun => Scan.sorted_collected hnodup hrun⟩

end Checker

end PageLint
