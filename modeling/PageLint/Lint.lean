import PageLint.PageRule
import PageLint.Failure
import PageLint.DataCheck.Layout
import PageLint.DataCheck.Entities
import PageLint.DataCheck.Bounds
import PageLint.DataCheck.References
import PageLint.DataCheck.Periods

/-!
# Linting

The checks over a whole file tree: all pages of a directory, and the data files of another.

* `Checker.checkData`: the findings about the data directory, and the number of data files in it.
* `FileTree.pages?`: the pages of a directory.
* `Checker.lint`: both, as the outcome of a run.
-/

namespace PageLint

/-- What the data check finds. -/
structure DataReport where
  /-- The findings, check by check. -/
  findings : List Finding
  /-- The number of data files in the directory. -/
  files : Nat
  deriving DecidableEq, Repr

/-- Where a run reads from. -/
structure Inputs where
  /-- The directory from which findings show paths. -/
  root : Path
  /-- The directory of pages. -/
  pages : Path
  /-- The directory of data files. -/
  data : Path
  deriving DecidableEq, Repr

/-- The pages of a directory: all files below it whose names end with `.md`, ascending. -/
def FileTree.pages? (tree : FileTree) (dir : Path) : Except Failure (List Path) :=
  if tree.isDirectory dir then .ok (tree.filesEndingWith dir ".md")
  else .error (.pagesDirNotFound dir)

/-- The text of a page. -/
def FileTree.readPage (tree : FileTree) (path : Path) : Except Failure Text :=
  match (tree.read? path).bind Text.ofUtf8? with
  | some text => .ok text
  | none => .error (.pageRead path)

namespace Checker

variable (checker : Checker)

/-- The findings about a data set: files that cannot be read, then the checks in order. -/
def dataFindings (set : DataSet) : List Finding :=
  let d := checker.tables.data
  set.unreadable ++ DataCheck.layout d set ++ DataCheck.entities set checker.tables ++
    DataCheck.ranges checker.known d set ++ DataCheck.aggregates checker.known d set ++
    d.references.flatMap (DataCheck.reference set) ++ DataCheck.periods d set

/-- The findings about the data directory, and the number of data files in it. -/
def checkData (tree : FileTree) (dir root : Path) : Except Failure DataReport :=
  if tree.isDirectory dir then
    .ok ⟨checker.dataFindings (DataSet.load tree checker.tables.data dir root),
      tree.countEndingWith dir ".csv"⟩
  else .error (.dataDirNotFound dir)

/-- All findings about pages and data. -/
def lint (tree : FileTree) (inputs : Inputs) : Except Failure LintResult := do
  let paths ← tree.pages? inputs.pages
  let pages ← paths.mapM fun p => do return (p.display inputs.root, ← tree.readPage p)
  let data ← checker.checkData tree inputs.data inputs.root
  let findings := Finding.sorted
    (pages.flatMap (fun (path, text) => checker.checkPage path text) ++ data.findings)
  return ⟨findings, Summary.ofFindings findings pages.length data.files⟩

end Checker

end PageLint
