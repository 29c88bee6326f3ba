import PageLint.CommandLine.Basic

/-!
# Reading a command line

Arguments are read from the left, and the first one that cannot stand where it stands ends the
reading. Options of the program stand before the command, and those of the command after it.

* `Word.ofString`: an option by its name, letters, the end of the options, or a plain word.
* `Request.ofArguments`: the request of a command line.
-/

namespace PageLint.CommandLine

/-! ### Words -/

/-- How an argument reads by itself. -/
inductive Word where
  /-- Two dashes: no option follows. -/
  | terminator
  /-- Two dashes and a name, with a value after an equals sign if there is one. -/
  | long (name : Text) (value : Option Text)
  /-- One dash and letters. -/
  | letters (first : Char) (others : List Char)
  /-- Any other word; one dash alone is such a word. -/
  | plain
  deriving DecidableEq, Repr

/-- The word of an argument. -/
def Word.ofText : Text → Word
  | ['-', '-'] => terminator
  | '-' :: '-' :: t =>
    match Text.splitAt? ['='] t with
    | some (name, value) => long name (some value)
    | none => long t none
  | '-' :: c :: cs => letters c cs
  | _ => plain

/-! ### Options -/

/-- The options read so far. -/
structure Given where
  /-- How often log lines were asked for. -/
  verbosity : Nat := 0
  /-- The other options with their values; an option that takes no value has the empty one. -/
  values : List (Switch × String) := []
  deriving DecidableEq, Repr

/-- The largest count of requests for log lines; further ones add nothing. -/
def mostVerbose : Nat := 255

namespace Given

/-- The value of an option. -/
def value? (g : Given) (s : Switch) : Option String :=
  (g.values.find? (·.1 = s)).map (·.2)

/-- Adds an option that may be there once. -/
def put (g : Given) (s : Switch) (value : String) : Except Stop Given :=
  if (g.value? s).isSome then .error (.misuse (.repeated s))
  else .ok { g with values := g.values ++ [(s, value)] }

/-- Adds an option that stands without a value; `long` tells whether it stands by its name. -/
def take (g : Given) (topic : Topic) (long : Bool) : Switch → Except Stop Given
  | .verbose => .ok { g with verbosity := Nat.min (g.verbosity + 1) mostVerbose }
  | .help => .error (.help topic long)
  | .version => .error .version
  | s => g.put s ""

/-- Adds the options of some letters, one after another. -/
def takeLetters (g : Given) (topic : Topic) : List Char → Except Stop Given
  | [] => .ok g
  | c :: cs =>
    match topic.lettered? c with
    | none => .error (.misuse (.unexpected (String.ofList ['-', c])))
    | some s =>
      match g.take topic false s with
      | .ok g => takeLetters g topic cs
      | .error stop => .error stop

end Given

/-- Why the words ahead do not begin with a value for an option. A word that looks like an option is
no value, nor is the end of the options; a dash alone and the empty word are values. -/
def valueRefusal? (topic : Topic) (s : Switch) : List String → Option Misuse
  | [] => some (.valueMissing s)
  | word :: words =>
    match Word.ofText word.toList with
    | .plain => none
    | .long _ _ => some (.valueMissing s)
    | .letters c _ =>
      some (if (topic.lettered? c).isSome then .valueMissing s
        else .unexpected (String.ofList ['-', c]))
    | .terminator =>
      match words with
      | [] => some (.valueMissing s)
      | other :: _ => some (.unexpected other)

/-- What one word does where an option may stand. -/
inductive Effect where
  /-- It is a plain word. -/
  | plain
  /-- It ends the options. -/
  | terminator
  /-- Its options are read. -/
  | given (g : Given)
  /-- The next word is the value of this option. -/
  | awaits (s : Switch)
  /-- It ends the reading. -/
  | stop (s : Stop)
  deriving DecidableEq, Repr

/-- The effect of an attempt to add options. -/
def Effect.ofAttempt : Except Stop Given → Effect
  | .ok g => given g
  | .error s => stop s

/-- What a word does where an option may stand. -/
def Given.read (g : Given) (topic : Topic) (word : String) : Effect :=
  match Word.ofText word.toList with
  | .plain => .plain
  | .terminator => .terminator
  | .letters c cs => .ofAttempt (g.takeLetters topic (c :: cs))
  | .long name value =>
    match topic.named? name.str with
    | none => .stop (.misuse (.unexpected word))
    | some s =>
      match s.takesValue, value with
      | false, none => .ofAttempt (g.take topic true s)
      | false, some _ => .stop (.misuse (.valueNotTaken s))
      | true, some v => .ofAttempt (g.put s v.str)
      | true, none => .awaits s

/-- Reads options up to the first plain word, and returns them with the words from there on. After
the end of the options no word is expected. -/
def readOptions (topic : Topic) (g : Given) : List String → Except Stop (Given × List String)
  | [] => .ok (g, [])
  | word :: words =>
    match g.read topic word with
    | .plain => .ok (g, word :: words)
    | .terminator =>
      match words with
      | [] => .ok (g, [])
      | other :: _ => .error (.misuse (.unexpected other))
    | .given g => readOptions topic g words
    | .stop s => .error s
    | .awaits s =>
      match words with
      | [] => .error (.misuse (.valueMissing s))
      | value :: rest =>
        match valueRefusal? topic s (value :: rest), g.put s value with
        | some m, _ => .error (.misuse m)
        | none, .ok g => readOptions topic g rest
        | none, .error stop => .error stop

/-! ### Commands -/

/-- The help text that the words after `help` ask for. There are no commands below a command. -/
def helpStop : List String → Stop
  | [] => .help none true
  | word :: words =>
    match Command.named? word, words with
    | none, _ => .misuse (.unknownCommand word)
    | some c, [] => .help (some c) true
    | some _, other :: _ => .misuse (.unknownCommand other)

/-- The settings that the options give. -/
def Given.settings (g : Given) : Settings :=
  { pages := g.value? .pages
    sources := g.value? .sources
    output := g.value? .output
    strict := (g.value? .strict).map fun _ => true }

/-- What a command with its options is there to do. -/
def Command.task? (c : Command) (g : Given) : Option Task :=
  match c with
  | version => some .version
  | check => some (.check (g.value? .root) g.settings)
  | gaps => some (.gaps (g.value? .root) g.settings)
  | help => none

/-- The request of a command line. A count of log lines after the command replaces one before it. -/
def Request.ofArguments (arguments : List String) : Except Stop Request := do
  let (g, words) ← readOptions none {} arguments
  match words with
  | [] => throw (.misuse (if g = {} then .nothingGiven else .commandMissing))
  | word :: words =>
    let some c := Command.named? word | throw (.misuse (.unknownCommand word))
    if c = .help then throw (helpStop words)
    let (own, rest) ← readOptions (some c) {} words
    match rest, c.task? own with
    | [], some task =>
      return { verbosity := if own.verbosity = 0 then g.verbosity else own.verbosity, task }
    | [], none => throw (helpStop [])
    | other :: _, _ => throw (.misuse (.unexpected other))

end PageLint.CommandLine
