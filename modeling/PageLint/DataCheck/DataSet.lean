import PageLint.Checker
import PageLint.FileTree
import PageLint.Table

/-!
# Data sets

The data files that a configuration names, as they are found in the data directory. Each file is
read once, however many checks ask for it. A file that cannot be read counts for the checks neither
as missing nor as a table.

* `DataSet.load`: the data set in a directory.
* `DataSet.unreadable`: the findings about files that cannot be read.
-/

namespace PageLint

/-- What is found where a data file should be. -/
inductive DataFile where
  /-- No file. -/
  | missing
  /-- A file that is no table of texts. -/
  | unreadable (e : Csv.Error)
  /-- A table. -/
  | table (t : Table)
  deriving DecidableEq, Repr

/-- The data file at a path. -/
def DataFile.load (tree : FileTree) (path : Path) : DataFile :=
  match tree.read? path with
  | none => .missing
  | some content =>
    match Table.ofBytes? content with
    | .ok t => .table t
    | .error e => .unreadable e

/-- The files that the tables about the data directory name, ascending. -/
def DataTables.fileNames (d : DataTables) : List String :=
  Ascending.ofList (d.entityTables.map (·.file) ++ d.locations.toList.map (·.file) ++
    d.ranges.map (·.file) ++ d.aggregates.map (·.file) ++ d.references.map (·.file))

/-- The data files of a run. -/
structure DataSet where
  /-- The data directory. -/
  directory : Path
  /-- The directory from which findings show paths. -/
  root : Path
  /-- The files that are asked for, ascending by name. -/
  files : List (String × DataFile)

namespace DataSet

/-- The data files that the tables name, as they are in the directory. -/
def load (tree : FileTree) (d : DataTables) (directory root : Path) : DataSet :=
  { directory, root
    files := d.fileNames.map fun name =>
      (name, DataFile.load tree (directory.join (Path.ofString name))) }

variable (set : DataSet)

/-- What is found under the name. -/
def file (name : String) : DataFile :=
  ((set.files.find? (·.1 == name)).map (·.2)).getD .missing

/-- The table in the file, if it is one. -/
def table? (name : String) : Option Table :=
  match set.file name with
  | .table t => some t
  | _ => none

/-- Is there no file of that name? -/
def isMissing (name : String) : Bool := set.file name == .missing

/-- The path of a data file as findings show it. -/
def display (name : String) : String := (set.directory.join (Path.ofString name)).display set.root

/-- A finding about a data file. -/
def report (name : String) (notice : Notice) : Finding := notice.inFile (set.display name)

/-- The findings about files that cannot be read, ascending by name. -/
def unreadable : List Finding :=
  set.files.filterMap fun (name, file) =>
    match file with
    | .unreadable e =>
      some (set.report name (.error "DATA_READ" ("Cannot read " ++ name ++ ": " ++ e.message)))
    | _ => none

end DataSet

end PageLint
