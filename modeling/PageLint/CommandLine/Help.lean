import PageLint.CommandLine.Basic

/-!
# Help texts

Every topic has a short help text, with two columns, and all but one have a long one, where what is
told about an option stands below it.

* `Topic.help`: the help text of a topic.
-/

namespace PageLint.CommandLine

/-! ### What is told -/

/-- What is told about a command in one line. -/
def Command.about : Command → String
  | version => "Show version"
  | check => "Run lint checks"
  | gaps => "Show derived gap ranges"
  | help => "Print this message or the help of the given subcommand(s)"

/-- What the value of an option is called. -/
def Switch.valueName? : Switch → Option String
  | root => some "ROOT"
  | pages => some "PAGES"
  | sources => some "SOURCES"
  | output => some "OUTPUT"
  | _ => none

/-- What is told about an option in the long or the short help text. -/
def Switch.about (long : Bool) : Switch → String
  | root => "Repository root (default: current dir)"
  | pages => "Pages directory, relative to the root (default: pages)"
  | sources => "Data directory, relative to the root (default: sources/CMP)"
  | output => "Output mode: human|json (default: human)"
  | strict => "Treat warnings as errors"
  | verbose => "Increase log verbosity (-v debug, -vv trace)"
  | help =>
    if long then "Print help (see a summary with '-h')" else "Print help (see more with '--help')"
  | version => "Print version"

namespace Topic

/-- What is told about a topic in one line. -/
def about : Topic → String
  | none => "Lint dashboard pages and their CSV data"
  | some c => c.about

/-- What is told about a topic in the long help text. -/
def longAbout? : Topic → Option String
  | none => some ("vizlint checks Markdown dashboard pages (SQL blocks and chart components) and " ++
      "the CSV files they read against a configurable rule set.\n\n" ++
      "Configuration precedence: CLI > vizlint.toml > defaults.")
  | some .version => some "Print the current vizlint version."
  | some .check => some ("Scan every page under the pages directory and every configured CSV " ++
      "under the sources directory. Errors fail the run; warnings fail it only with --strict.")
  | some .gaps => some ("Merge the configured per-source gaps into universal and source-only " ++
      "ranges and print the ReferenceArea bounds each one needs.")
  | some .help => none

/-- How a command line about the topic is written. -/
def usage : Topic → String
  | none => programName ++ " [OPTIONS] <COMMAND>"
  | some .help => programName ++ " help [COMMAND]..."
  | some c => programName ++ " " ++ c.name ++ " [OPTIONS]"

/-- The commands of a topic. -/
def commands : Topic → List Command
  | none => Command.all
  | some _ => []

/-- The words that a topic takes, with what is told about them. -/
def operands : Topic → List (String × String)
  | some .help => [("[COMMAND]...", "Print help for the subcommand(s)")]
  | _ => []

/-- Command lines to show how the topic is used. -/
def examples : Topic → List String
  | none => ["vizlint check", "vizlint check --pages site/pages --sources data/csv --strict",
      "vizlint gaps --output json"]
  | some .check => ["vizlint check", "vizlint check --output json", "vizlint check --strict"]
  | some _ => []

end Topic

/-! ### Layout -/

/-- The forms of an option: by its letter and by its name, with its value. -/
def Switch.forms (s : Switch) : String :=
  let letter := match s.letter? with
    | some c => String.ofList ['-', c, ',', ' ']
    | none => "    "
  let value := match s.valueName? with
    | some v => " <" ++ v ++ ">"
    | none => if s = verbose then "..." else ""
  letter ++ "--" ++ s.name ++ value

/-- Lines of two columns, the second of which starts two characters after the longest entry of the
first. -/
def columns (rows : List (String × String)) : List String :=
  let width := (rows.map (·.1.length)).foldl Nat.max 0
  rows.map fun (left, right) =>
    "  " ++ left ++ String.ofList (List.replicate (width + 2 - left.length) ' ') ++ right

/-- Lines with what is told about each entry below it, and an empty line between entries. -/
def stacked : List (String × String) → List String
  | [] => []
  | [(left, right)] => ["  " ++ left, "          " ++ right]
  | (left, right) :: rows => ["  " ++ left, "          " ++ right, ""] ++ stacked rows

/-- An empty line, a title and some lines, unless there are no lines. -/
def titled (title : String) (lines : List String) : List String :=
  if lines.isEmpty then [] else ["", title] ++ lines

namespace Topic

/-- The lines of the help text of a topic. A topic without a long text has only the short one. -/
def helpLines (topic : Topic) (long : Bool) : List String :=
  let long := long && topic.longAbout?.isSome
  let about := if long then topic.longAbout?.getD topic.about else topic.about
  let layout := if long then stacked else columns
  [about, "", "Usage: " ++ topic.usage] ++
    titled "Commands:" (columns (topic.commands.map fun c => (c.name, c.about))) ++
    titled "Arguments:" (columns topic.operands) ++
    titled "Options:" (layout (topic.options.map fun s => (s.forms, s.about long))) ++
    titled "Examples:" (topic.examples.map ("  " ++ ·))

/-- The help text of a topic, in its long or its short form. -/
def help (topic : Topic) (long : Bool) : String :=
  String.join ((topic.helpLines long).map (· ++ "\n"))

end Topic

end PageLint.CommandLine
