import PageLint.CommandLine.Help
import PageLint.CommandLine.Reading
import PageLint.Session

/-!
# The program

From arguments and a file tree to an exit code and two streams of text. Nothing else is read and
nothing else is written.

* `Program.run`: the outcome of the program.
-/

namespace PageLint

namespace CommandLine

/-- What is said about a command line that is no request. -/
def Misuse.message : Misuse → String
  | nothingGiven => "a command is required"
  | commandMissing => "a command is required"
  | unknownCommand word => "unrecognized command '" ++ word ++ "'"
  | unexpected word => "unexpected argument '" ++ word ++ "'"
  | valueMissing s => "a value is required for '--" ++ s.name ++ "'"
  | valueNotTaken s => "no value is expected for '--" ++ s.name ++ "'"
  | repeated s => "the argument '--" ++ s.name ++ "' is given twice"

end CommandLine

/-- What the program is told beside its arguments. -/
structure Environment where
  /-- Is colour wanted? -/
  color : Bool
  /-- The log filter, if one is set. -/
  logFilter : Option Text
  deriving DecidableEq, Repr

/-- The log filter for a count of requests for log lines. One that is set counts more, if it can be
read. -/
def Environment.filter (env : Environment) (verbosity : Nat) : Log.Filter :=
  (env.logFilter.bind Log.Filter.ofText?).getD (Log.Filter.ofVerbosity programName verbosity)

/-- What the program leaves. -/
structure Outcome where
  /-- The exit code: 0 if all is well, 1 if pages or data are not, 2 if there is no report. -/
  code : Nat
  /-- What goes to standard output. -/
  output : String
  /-- What goes to standard error. -/
  errors : String
  deriving DecidableEq, Repr

namespace Program

open CommandLine

/-- The line about a problem. -/
def problem (message : String) : List Span :=
  [.styled (.strong .red) "error:", .plain (" " ++ message), .newline]

/-- The outcome when a command line is no request. -/
def stopped (color : Bool) : Stop → Outcome
  | .help topic long => ⟨0, topic.help long, ""⟩
  | .version => ⟨0, programName ++ " " ++ programVersion ++ "\n", ""⟩
  | .misuse .nothingGiven => ⟨2, "", Topic.help none false⟩
  | .misuse m => ⟨2, "", Styled.render color (problem m.message)⟩

/-- The outcome of a session. -/
def finished (color : Bool) (filter : Log.Filter) (s : Session Reply) : Outcome :=
  let written (remarks : List Remark) := remarks.flatMap (·.spans filter)
  match s.run [] with
  | .ok reply remarks =>
    ⟨if reply.passed then 0 else 1, Styled.render color reply.spans,
      Styled.render color (written remarks)⟩
  | .error failure remarks =>
    ⟨2, "", Styled.render color (written remarks ++ problem failure.message)⟩

/-- The outcome of the program. -/
def run (env : Environment) (tree : FileTree) (arguments : List String) : Outcome :=
  match Request.ofArguments arguments with
  | .error stop => stopped env.color stop
  | .ok request =>
    finished env.color (env.filter request.verbosity) (request.task.session tree)

end Program

end PageLint
