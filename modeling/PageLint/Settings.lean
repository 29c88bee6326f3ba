import PageLint.FileTree
import PageLint.Lint
import PageLint.RuleTables.Decode
import PageLint.Toml.Document
import PageLint.Yaml.Document

/-!
# Settings

What a run is told: by its command line, by the configuration file of its root directory, or by
defaults, in this order. The root directory is the nearest directory above the starting point that
holds a configuration file or a repository.

* `FileTree.root`: the root directory.
* `Settings.load`: the settings of the configuration file of a directory.
* `Configuration.resolve`: the effective configuration of a run.
-/

namespace PageLint

/-- A format of configuration files. -/
inductive ConfigFormat where
  /-- TOML. -/
  | toml
  /-- YAML. -/
  | yaml
  deriving DecidableEq, Repr

/-- The document that the text is in a format. -/
def ConfigFormat.read? : ConfigFormat → Text → Option Value
  | toml => Toml.ofText?
  | yaml => Yaml.ofText?

/-- What may be set for a run. -/
structure Settings where
  /-- The directory of pages. -/
  pages : Option String := none
  /-- The directory of data files. -/
  sources : Option String := none
  /-- The form of output. -/
  output : Option String := none
  /-- Do warnings fail the run? -/
  strict : Option Bool := none
  deriving DecidableEq, Repr

namespace Settings

/-- The names of configuration files in the order in which they are looked for. -/
def fileNames : List (String × ConfigFormat) :=
  [("vizlint.toml", .toml), ("vizlint.yaml", .yaml), ("vizlint.yml", .yaml)]

/-- The name of the directory that makes a directory a repository. -/
def repositoryName : String := ".git"

/-- The settings and the rule tables of a configuration. -/
def ofValue? (v : Value) : Option (Settings × Option RuleTables) := do
  let f ← v.record? ["pages", "sources", "output", "strict", "rules"] 4
  let settings : Settings :=
    { pages := ← f.optional "pages" Value.string?
      sources := ← f.optional "sources" Value.string?
      output := ← f.optional "output" Value.string?
      strict := ← f.optional "strict" Value.bool? }
  return (settings, ← f.optional "rules" RuleTables.ofValue?)

/-- The settings, each replaced by that of `fallback` where it is not given. -/
def orElse (settings fallback : Settings) : Settings :=
  { pages := settings.pages.or fallback.pages
    sources := settings.sources.or fallback.sources
    output := settings.output.or fallback.output
    strict := settings.strict.or fallback.strict }

/-- The configuration file of a directory: the first of its names under which there is a file. -/
def file? (tree : FileTree) (root : Path) : Option (Path × ConfigFormat) :=
  (fileNames.map fun (name, format) => (root.join (Path.ofString name), format)).find?
    fun (path, _) => tree.isFile path

/-- The settings and rule tables of a configuration file. -/
def read? (tree : FileTree) (path : Path) (format : ConfigFormat) :
    Option (Settings × Option RuleTables) := do
  ofValue? (← format.read? (← Text.ofUtf8? (← tree.read? path)))

end Settings

/-- The directory and the directories above it, as far as they are written in the path; `fuel`
bounds their number. -/
def Path.chain : (fuel : Nat) → Path → List Path
  | 0, p => [p]
  | fuel + 1, p =>
    match p.parent? with
    | some q => p :: chain fuel q
    | none => [p]

/-- The directory and all directories above it that are written in the path. -/
def Path.upward (p : Path) : List Path := p.chain p.text.length

/-- The names by which a root directory is known: those of configuration files, whatever is there,
and that of a repository. -/
def FileTree.rootMarks : List String := Settings.fileNames.map (·.1) ++ [Settings.repositoryName]

/-- Does the directory hold anything under one of these names? -/
def FileTree.isRoot (tree : FileTree) (dir : Path) : Bool :=
  rootMarks.any fun name => tree.holds (dir.join (Path.ofString name))

/-- The root directory for a starting point: the nearest one above it, or else the starting point
itself. -/
def FileTree.root (tree : FileTree) (start : Path) : Path :=
  (start.upward.find? tree.isRoot).getD start

/-- The effective configuration of a run. -/
structure Configuration where
  /-- The root directory. -/
  root : Path
  /-- The directory of pages. -/
  pages : Path
  /-- The directory of data files. -/
  sources : Path
  /-- The form of output. -/
  output : String
  /-- Do warnings fail the run? -/
  strict : Bool
  /-- The rule tables. -/
  rules : RuleTables
  /-- The configuration file, if there is one. -/
  file : Option Path
  deriving Repr

namespace Configuration

/-- What holds where nothing is set: the directory of pages. -/
def defaultPages : String := "pages"

/-- What holds where nothing is set: the directory of data files. -/
def defaultSources : String := "sources/CMP"

/-- What holds where nothing is set: the form of output. -/
def defaultOutput : String := "human"

/-- The configuration for a root directory, some settings and rule tables. -/
def ofSettings (root : Path) (file : Option Path) (s : Settings) (rules : Option RuleTables) :
    Configuration :=
  { root, file
    pages := root.join (Path.ofString (s.pages.getD defaultPages))
    sources := root.join (Path.ofString (s.sources.getD defaultSources))
    output := s.output.getD defaultOutput
    strict := s.strict.getD false
    rules := rules.getD RuleTables.builtin }

/-- The effective configuration: what is `given` counts more than the configuration file, and that
more than the defaults. A configuration file that cannot be read is a failure. -/
def resolve (tree : FileTree) (start : Path) (given : Settings) : Except Failure Configuration :=
  let root := tree.root start
  match Settings.file? tree root with
  | none => .ok (ofSettings root none given none)
  | some (path, format) =>
    match Settings.read? tree path format with
    | none => .error (.config path)
    | some (settings, rules) => .ok (ofSettings root (some path) (given.orElse settings) rules)

/-- Where the run reads from. -/
def inputs (c : Configuration) : Inputs := ⟨c.root, c.pages, c.sources⟩

end Configuration

end PageLint
