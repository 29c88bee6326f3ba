import PageLint.Report.Styled

/-!
# Log events

What the program reports about itself. An event is one line: its level, the activity during which
it happened, a message, and named values.

* `Log.Event.line`: the line of an event.
-/

namespace PageLint.Log

/-- How much an event matters. -/
inductive Level where
  /-- Something failed. -/
  | error
  /-- Something is passed over. -/
  | warn
  /-- What the program does. -/
  | info
  /-- How it gets on. -/
  | debug
  /-- Every step. -/
  | trace
  deriving DecidableEq, Repr

namespace Level

/-- The number of the level: the higher it is, the less an event matters. -/
def rank : Level → Nat
  | error => 1
  | warn => 2
  | info => 3
  | debug => 4
  | trace => 5

/-- All levels, those that matter most first. -/
def all : List Level := [error, warn, info, debug, trace]

/-- The name of the level. -/
def name : Level → String
  | error => "ERROR"
  | warn => "WARN"
  | info => "INFO"
  | debug => "DEBUG"
  | trace => "TRACE"

/-- The colour of the level. -/
def colour : Level → Colour
  | error => .red
  | warn => .yellow
  | info => .green
  | debug => .blue
  | trace => .magenta

/-- The name of the level at the start of a line, five characters wide. -/
def span (l : Level) : Span :=
  .styled (.coloured l.colour) (String.ofList (List.replicate (5 - l.name.length) ' ') ++ l.name)

end Level

/-- Named values. -/
abbrev Values := List (String × String)

/-- A value with its name. -/
def valueSpans (v : String × String) : List Span :=
  [.styled .italic v.1, .styled .dimmed "=", .plain v.2]

/-- Something the program does that takes some time. -/
structure Activity where
  /-- The part of the program that does it. -/
  part : String
  /-- The name of the activity. -/
  name : String
  /-- What it is about. -/
  values : Values
  deriving DecidableEq, Repr

/-- The activity at the start of a message. -/
def Activity.spans (a : Activity) : List Span :=
  [.styled .bold a.name, .styled .bold "\x7b"] ++
    List.intercalate [.plain " "] (a.values.map valueSpans) ++
    [.styled .bold "\x7d", .styled .dimmed ":", .plain " "]

/-- Something that happened. -/
structure Event where
  /-- How much it matters. -/
  level : Level
  /-- The part of the program in which it happened. -/
  part : String
  /-- What happened. -/
  message : String
  /-- What it is about. -/
  values : Values
  /-- The activity during which it happened. -/
  during : Option Activity := none
  deriving DecidableEq, Repr

/-- The line of an event. The activity is left out unless it is `shown`. -/
def Event.line (e : Event) (shown : Activity → Bool) : List Span :=
  [e.level.span, .plain " "] ++ ((e.during.filter shown).map (·.spans)).getD [] ++
    [.plain e.message] ++ e.values.flatMap (fun v => .plain " " :: valueSpans v) ++ [.newline]

end PageLint.Log
