import PageLint.Value

/-!
# Tables under construction

The tables of a TOML document while it is read. How a table came about decides how it may still
grow: a header may define a table once, keys with dots may extend only tables that came about by
such keys, and a value is closed.

* `Toml.Tree.atPath`: changes the table that keys lead to.
* `Toml.Tree.define`, `Toml.Tree.append`, `Toml.Tree.assign`: what headers and keys do.
* `Toml.Tree.value`: the finished table as a value.
-/

namespace PageLint.Toml

/-- How a table came about. -/
inductive Origin where
  /-- By a header of its own. -/
  | header
  /-- As the table above one with a header. -/
  | above
  /-- By a key with dots. -/
  | dotted
  deriving DecidableEq, Repr

/-- What stands under a key. -/
inductive Tree where
  /-- A value, which is closed. -/
  | closed (v : Value)
  /-- A table. -/
  | table (origin : Origin) (entries : List (String × Tree))
  /-- A list of tables, the latest first. -/
  | tables (latest : List (String × Tree)) (earlier : List (List (String × Tree)))

/-- Keys with what stands under them. -/
abbrev Entries := List (String × Tree)

namespace Entries

/-- What stands under a key. -/
def find? (entries : Entries) (key : String) : Option Tree :=
  (List.find? (fun e => e.1 == key) entries).map (·.2)

/-- Puts something under a key, in the place of what was there. -/
def put (key : String) (tree : Tree) : Entries → Entries
  | [] => [(key, tree)]
  | (k, t) :: entries => if k == key then (key, tree) :: entries else (k, t) :: put key tree entries

end Entries

namespace Tree

/-- Changes the table that a path leads to. Tables that are missing on the way come about with the
given origin; a path of dotted keys does not pass through a table with a header. -/
def atPath (origin : Origin) (change : Origin → Entries → Option Entries) :
    (path : List String) → Origin → Entries → Option Entries
  | [], here, entries => change here entries
  | key :: path, _, entries => do
    match entries.find? key with
    | none => return entries.put key (.table origin (← atPath origin change path origin []))
    | some (.closed _) => none
    | some (.tables latest earlier) =>
      return entries.put key (.tables (← atPath origin change path .header latest) earlier)
    | some (.table there inner) =>
      if origin = .dotted ∧ there = .header then none
      else return entries.put key (.table there (← atPath origin change path there inner))

/-- Puts a value under a key with dots. -/
def assign (path : List String) (key : String) (v : Value) (entries : Entries) : Option Entries :=
  atPath .dotted (fun here inner =>
    if (here == .dotted) == path.isEmpty then none
    else if (inner.find? key).isSome then none
    else some (inner.put key (.closed v))) path .header entries

/-- Puts a value under a key with dots in the table that the last header defined. -/
def assignBelow (header path : List String) (key : String) (v : Value) (entries : Entries) :
    Option Entries :=
  atPath .above (fun _ inner => assign path key v inner) header .header entries

/-- Defines the table of a header. -/
def define (path : List String) (key : String) (entries : Entries) : Option Entries :=
  atPath .above (fun _ inner =>
    match inner.find? key with
    | none => some (inner.put key (.table .header []))
    | some (.table .above entries) => some (inner.put key (.table .header entries))
    | some _ => none) path .header entries

/-- Appends a table to the list of tables of a header. -/
def append (path : List String) (key : String) (entries : Entries) : Option Entries :=
  atPath .above (fun _ inner =>
    match inner.find? key with
    | none => some (inner.put key (.tables [] []))
    | some (.tables latest earlier) => some (inner.put key (.tables [] (latest :: earlier)))
    | some _ => none) path .header entries

mutual

/-- The finished tree as a value. -/
def value : Tree → Value
  | closed v => v
  | table _ entries => .table (entryValues entries)
  | tables latest earlier => .array ((tableValues earlier).reverse ++ [.table (entryValues latest)])

/-- Entries with their values. -/
def entryValues : List (String × Tree) → List (String × Value)
  | [] => []
  | (key, tree) :: entries => (key, value tree) :: entryValues entries

/-- Tables as values. -/
def tableValues : List (List (String × Tree)) → List Value
  | [] => []
  | entries :: more => .table (entryValues entries) :: tableValues more

end

end Tree

end PageLint.Toml
