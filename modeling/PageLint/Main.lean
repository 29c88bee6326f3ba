import PageLint.Program

/-!
# The command line program

Gathers what the program is told (arguments, environment and files) and writes its outcome. Only the
files that a task looks at are read: the names that make a directory the root directory, and then
all that is in the directories of pages and of data files.

* `main`: the program.
-/

namespace PageLint.Program

/-- The location that a path is written for. -/
def location (workingDirectory : Location) (p : Path) : Location :=
  p.steps.foldl (fun l step =>
    match step with
    | .root => []
    | .current => l
    | .parent => l.dropLast
    | .name n => l ++ [n]) workingDirectory

/-- The names in a text of names with slashes between them. -/
def names (s : String) : Location := (Text.splitOn '/' s.toList).filter (· ≠ [])

/-- The bytes of a file, if it can be read. -/
def bytes? (path : String) : IO (Option Bytes) := do
  match ← (IO.FS.readBinFile path).toBaseIO with
  | .ok content => return some content.toList
  | .error _ => return none

/-- What is at a path and, for a directory that is to be read, below it. What can be read neither as a
file nor as a directory is not there. -/
partial def entriesAt (here : Location) (deep : Bool) (path : String) :
    IO (List (Location × Node)) := do
  if let some content ← bytes? path then return [(here, .file content)]
  match ← (do (← IO.FS.realPath path).readDir : IO _).toBaseIO with
  | .error _ => return []
  | .ok found =>
    let inside ← (if deep then found.toList else []).mapM fun entry =>
      entriesAt (here ++ [entry.fileName.toList]) true entry.path.toString
    return (here, .directory) :: inside.flatten

/-- Those of two directories that hold all of both: one of them if the other is below it. -/
def covering (place : Path → Location) (p q : Path) : List Path :=
  if (FileTree.below? (place p) (place q)).isSome then [p]
  else if (FileTree.below? (place q) (place p)).isSome then [q]
  else [p, q]

/-- The file tree that a task looks at from a starting point, with some settings. -/
def gather (start : Option String) (given : Settings) : IO FileTree := do
  let workingDirectory := names (← IO.currentDir).toString
  let place := location workingDirectory
  let entries (deep : Bool) (paths : List Path) : IO (List (Location × Node)) :=
    return (← paths.mapM fun p => entriesAt (place p) deep p.str).flatten
  let start := Path.ofString (start.getD ".")
  let marks := start.upward.flatMap fun dir => FileTree.rootMarks.map (dir.join ∘ Path.ofString)
  let near : FileTree := ⟨← entries false marks, workingDirectory⟩
  match Configuration.resolve near start given with
  | .error _ => return near
  | .ok c =>
    return { near with entries := near.entries ++ (← entries true (covering place c.pages c.sources)) }

/-- The file tree for a command line. -/
def gatherFor (arguments : List String) : IO FileTree :=
  match CommandLine.Request.ofArguments arguments with
  | .ok ⟨_, .check start given⟩ | .ok ⟨_, .gaps start given⟩ => gather start given
  | _ => return ⟨[], []⟩

end PageLint.Program

open PageLint in
/-- Runs the program with these arguments. -/
def main (arguments : List String) : IO UInt32 := do
  let env : Environment :=
    { color := (← IO.getEnv "NO_COLOR").isNone
      logFilter := (← IO.getEnv "RUST_LOG").map String.toList }
  let outcome := Program.run env (← Program.gatherFor arguments) arguments
  (← IO.getStdout).putStr outcome.output
  (← IO.getStderr).putStr outcome.errors
  return outcome.code.toUInt32
