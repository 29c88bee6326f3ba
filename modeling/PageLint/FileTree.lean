import PageLint.Path
import PageLint.Ascending
import PageLint.Text.Utf8

/-!
# File trees

The files that a run sees: a tree of directories and files, and the working directory from which
relative paths lead. Links are not part of it.

* `FileTree.node?`: what a path leads to.
* `FileTree.isFile`, `FileTree.isDirectory`, `FileTree.holds`, `FileTree.read?`: questions about a
  path.
* `FileTree.filesBelow`, `FileTree.names`: what is in a directory.
-/

namespace PageLint

/-- A place in a file tree: the names that lead there from the root. -/
abbrev Location := List Text

/-- What is at a location. -/
inductive Node where
  /-- A file with its bytes. -/
  | file (content : Bytes)
  /-- A directory. -/
  | directory
  deriving DecidableEq, Repr

/-- A file tree. Directories above an entry are there without an entry of their own. -/
structure FileTree where
  /-- Files and directories. -/
  entries : List (Location × Node)
  /-- The directory from which relative paths lead. -/
  workingDirectory : Location

namespace FileTree

variable (tree : FileTree)

/-- What is at a location. -/
def at? (l : Location) : Option Node :=
  match tree.entries.find? (·.1 == l) with
  | some entry => some entry.2
  | none =>
    if l.isPrefixOf tree.workingDirectory || tree.entries.any fun entry => l.isPrefixOf entry.1 then
      some .directory
    else none

/-- Where steps lead from a location. Only a directory can be left, up or down. -/
def walk (l : Location) : List Path.Step → Option Location
  | [] => some l
  | .root :: steps => walk [] steps
  | .current :: steps => walk l steps
  | .parent :: steps => if tree.at? l = some .directory then walk l.dropLast steps else none
  | .name n :: steps => if tree.at? l = some .directory then walk (l ++ [n]) steps else none

/-- The location of a path. The empty path leads nowhere. -/
def locate? (p : Path) : Option Location :=
  if p.text = [] then none else tree.walk tree.workingDirectory p.steps

/-- What is at a path. A path that ends with a slash does not lead to a file. -/
def node? (p : Path) : Option Node :=
  match (tree.locate? p).bind tree.at? with
  | some (.file content) => if p.endsInFiller then none else some (.file content)
  | node => node

/-- The bytes of the file at a path. -/
def read? (p : Path) : Option Bytes :=
  match tree.node? p with
  | some (.file content) => some content
  | _ => none

/-- Is there a file at the path? -/
def isFile (p : Path) : Bool := (tree.read? p).isSome

/-- Is there a directory at the path? -/
def isDirectory (p : Path) : Bool := tree.node? p == some .directory

/-- Is there anything at the path? -/
def holds (p : Path) : Bool := (tree.node? p).isSome

/-! ### Listing -/

/-- What is left of a location below another. -/
def below? : (top l : Location) → Option Location
  | [], l => some l
  | _ :: _, [] => none
  | n :: top, m :: l => if n = m then below? top l else none

/-- The locations of all files below a location, as seen from it. -/
def filesBelow (top : Location) : List Location :=
  tree.entries.filterMap fun entry =>
    match entry.2 with
    | .file _ => below? top entry.1
    | .directory => none

/-- The names of the files and directories in a directory, ascending. -/
def names (top : Location) : List Text :=
  Ascending.ofList ((tree.workingDirectory :: tree.entries.map (·.1)).filterMap fun l =>
    (below? top l).bind List.head?)

/-- The paths of all files below a directory whose names end with `tail`, ascending. -/
def filesEndingWith (dir : Path) (tail : String) : List Path :=
  match dir.listing?, tree.locate? dir with
  | some start, some top =>
    Path.sorted (((tree.filesBelow top).filter fun l =>
      (l.getLast?.getD []).endsWith tail.toList).map start.joinAll)
  | _, _ => []

/-- The number of entries of a directory whose names end with `tail`. -/
def countEndingWith (dir : Path) (tail : String) : Nat :=
  match dir.listing?, tree.locate? dir with
  | some _, some top => (tree.names top).countP (·.endsWith tail.toList)
  | _, _ => 0

end FileTree

end PageLint
