import PageLint.Settings

/-!
# Commands and options

The words of the command line: the commands, the options with their names, and which command takes
which option. Both the reading of arguments and the help texts follow these tables.

* `Topic.options`: the options of a command, or of the program itself.
* `Topic.named?`, `Topic.lettered?`: the option that a word or a letter means.
* `Request`: what a command line asks for.
-/

namespace PageLint

/-- The name of the program. -/
def programName : String := "vizlint"

/-- The version of the program. -/
def programVersion : String := "0.1.0"

namespace CommandLine

/-- A command. -/
inductive Command where
  /-- Shows the version. -/
  | version
  /-- Lints pages and data. -/
  | check
  /-- Shows the table of gaps. -/
  | gaps
  /-- Shows a help text. -/
  | help
  deriving DecidableEq, Repr

namespace Command

/-- All commands in the order of the help text. -/
def all : List Command := [version, check, gaps, help]

/-- The word for the command. -/
def name : Command → String
  | version => "version"
  | check => "check"
  | gaps => "gaps"
  | help => "help"

/-- The command that a word means. Words are not abbreviated. -/
def named? (word : String) : Option Command := all.find? (·.name == word)

/-- A command is read from its word. -/
theorem named?_name (c : Command) : named? c.name = some c := by
  cases c <;> rfl

end Command

/-- An option. -/
inductive Switch where
  /-- The directory to start from. -/
  | root
  /-- The directory of pages. -/
  | pages
  /-- The directory of data files. -/
  | sources
  /-- The form of output. -/
  | output
  /-- Warnings fail the run. -/
  | strict
  /-- More log lines. -/
  | verbose
  /-- Shows a help text. -/
  | help
  /-- Shows the version. -/
  | version
  deriving DecidableEq, Repr

namespace Switch

/-- The word for the option, which stands after two dashes. -/
def name : Switch → String
  | root => "root"
  | pages => "pages"
  | sources => "sources"
  | output => "output"
  | strict => "strict"
  | verbose => "verbose"
  | help => "help"
  | version => "version"

/-- The letter for the option, which stands after one dash. -/
def letter? : Switch → Option Char
  | verbose => some 'v'
  | help => some 'h'
  | version => some 'V'
  | _ => none

/-- Does the option take a value? -/
def takesValue : Switch → Bool
  | root | pages | sources | output => true
  | _ => false

end Switch

/-- What options belong to and help texts are about: a command, or the program when there is none. -/
abbrev Topic := Option Command

namespace Topic

/-- The options in the order of the help text. -/
def options : Topic → List Switch
  | none => [.verbose, .help, .version]
  | some .version => [.verbose, .help]
  | some .check => [.root, .verbose, .pages, .sources, .output, .strict, .help]
  | some .gaps => [.root, .verbose, .output, .help]
  | some .help => []

/-- The option that a word after two dashes means. Words are not abbreviated. -/
def named? (topic : Topic) (word : String) : Option Switch :=
  topic.options.find? (·.name == word)

/-- The option that a letter after one dash means. -/
def lettered? (topic : Topic) (c : Char) : Option Switch :=
  topic.options.find? (·.letter? == some c)

end Topic

/-- What there is to do. -/
inductive Task where
  /-- Show the version. -/
  | version
  /-- Lint from a starting point, with some settings. -/
  | check (start : Option String) (given : Settings)
  /-- Show the gaps from a starting point, with some settings. -/
  | gaps (start : Option String) (given : Settings)
  deriving DecidableEq, Repr

/-- What a command line asks for. -/
structure Request where
  /-- How many more log lines are wanted. -/
  verbosity : Nat
  /-- What there is to do. -/
  task : Task
  deriving DecidableEq, Repr

/-- What is wrong with a command line. -/
inductive Misuse where
  /-- There is nothing on it. -/
  | nothingGiven
  /-- There is no command on it. -/
  | commandMissing
  /-- A word stands for a command and is none. -/
  | unknownCommand (word : String)
  /-- An option or a word that the command does not take. -/
  | unexpected (word : String)
  /-- An option lacks its value. -/
  | valueMissing (switch : Switch)
  /-- An option that takes no value has one. -/
  | valueNotTaken (switch : Switch)
  /-- An option is there twice. -/
  | repeated (switch : Switch)
  deriving DecidableEq, Repr

/-- Why a command line is no request. -/
inductive Stop where
  /-- It asks for a help text, in its long or its short form. -/
  | help (topic : Topic) (long : Bool)
  /-- It asks for the version of the program. -/
  | version
  /-- Something is wrong with it. -/
  | misuse (m : Misuse)
  deriving DecidableEq, Repr

end CommandLine

end PageLint
