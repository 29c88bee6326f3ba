import PageLint.CommandLine.Basic
import PageLint.Log.Filter
import PageLint.Report.Human
import PageLint.Report.Json

/-!
# Sessions

What a task does: it reads its configuration, prepares a checker and answers. On the way it leaves
remarks, which stay when it fails.

* `Task.session`: the session of a task.
* `Remark.spans`: how a remark is written.
-/

namespace PageLint

/-! ### Remarks -/

/-- Something a session reports beside its answer. -/
inductive Remark where
  /-- A log event. -/
  | event (e : Log.Event)
  /-- There is no configuration file, and the built-in rules hold. -/
  | builtinRules
  deriving DecidableEq, Repr

/-- What a remark writes when its log events go through a filter. -/
def Remark.spans (filter : Log.Filter) : Remark → List Span
  | event e => filter.line e
  | builtinRules => [.styled (.strong .cyan) "note:",
      .plain " No vizlint.toml found; using built-in rules.", .newline]

/-- The name of a part of the program in the log. -/
def partName (part : String) : String := programName ++ "::" ++ part

/-- The event about a gap interval that is passed over. -/
def Gap.Interval.skipEvent (i : Gap.Interval) (why : Gap.Skip) : Log.Event :=
  { level := .warn
    part := partName "gaps"
    message := match why with
      | .unparseable => "skipping unparseable gap"
      | .inverted => "skipping inverted gap"
    values := [("source", i.source), ("start", i.start), ("end", i.stop)] }

/-- The events about the gap intervals that are passed over. -/
def Gap.skipEvents (intervals : List Gap.Interval) : List Log.Event :=
  intervals.filterMap fun i =>
    match i.span with
    | .ok _ => none
    | .error why => some (i.skipEvent why)

/-- The event about a configuration file. -/
def Configuration.loadEvent (file : Path) : Log.Event :=
  { level := .debug
    part := partName "config"
    message := "loaded config"
    values := [("path", file.str)] }

/-- The event about a checker. -/
def Checker.readyEvent (c : Checker) : Log.Event :=
  { level := .debug
    part := partName "lint"
    message := "engine ready"
    values := [("universal", toString c.gaps.universal.length),
      ("source_only", toString c.gaps.sourceOnly.length),
      ("known_issues", toString c.known.items.length)] }

/-- The events about bounds that are not set up for their files. -/
def Checker.misplacedEvents (c : Checker) (tree : FileTree) (inputs : Inputs) : List Log.Event :=
  let d := c.tables.data
  let set := DataSet.load tree d inputs.data inputs.root
  let event (rule file message : String) : Log.Event :=
    { level := .warn
      part := partName "data"
      message
      values := [("rule", rule), ("file", file)]
      during := some ⟨partName "lint", "check_data", [("dir", inputs.data.str)]⟩ }
  (DataCheck.misplacedRanges d set).map (fun r =>
    event r.rule r.file "range check on a file that is not an entity table") ++
  (DataCheck.misplacedAggregates d set).map fun a =>
    event a.rule a.file "aggregate check needs a period column"

/-! ### Sessions -/

/-- What a task answers: what it shows, and whether all is well. -/
structure Reply where
  /-- What is shown. -/
  spans : List Span
  /-- Is all well? -/
  passed : Bool
  deriving DecidableEq, Repr

/-- A session keeps its remarks, also when it fails. -/
abbrev Session := EStateM Failure (List Remark)

namespace Session

/-- Adds a remark. -/
def remark (r : Remark) : Session Unit := modify (· ++ [r])

/-- Adds log events. -/
def log (events : List Log.Event) : Session Unit := modify (· ++ events.map .event)

/-- The value, or the failure. -/
def ofExcept {α : Type} : Except Failure α → Session α
  | .ok a => pure a
  | .error f => throw f

/-- The effective configuration. -/
def configuration (tree : FileTree) (start : Option String) (given : Settings) :
    Session Configuration := do
  let c ← ofExcept (Configuration.resolve tree (Path.ofString (start.getD ".")) given)
  log (c.file.toList.map Configuration.loadEvent)
  return c

/-- The checker for some tables. -/
def checker (tables : RuleTables) : Session Checker := do
  log (Gap.skipEvents tables.gaps)
  let c ← ofExcept ((Checker.ofTables tables).mapError .pattern)
  log [c.readyEvent]
  return c

end Session

/-- The form of output for programs. -/
def Configuration.wantsJson (c : Configuration) : Bool := c.output == "json"

/-- A value as a document of its own. -/
def Json.document (j : Json) : List Span := Report.line j.pretty

/-- The session that lints. -/
def Session.check (tree : FileTree) (start : Option String) (given : Settings) :
    Session Reply := do
  let c ← configuration tree start given
  if c.file.isNone && !c.wantsJson then remark .builtinRules
  let checker ← Session.checker c.rules
  let result ← ofExcept (checker.lint tree c.inputs)
  log (checker.misplacedEvents tree c.inputs)
  let spans := if c.wantsJson then (result.json c.strict).document else result.report c.strict
  return ⟨spans, !result.summary.failed c.strict⟩

/-- The session that shows the gaps. -/
def Session.gaps (tree : FileTree) (start : Option String) (given : Settings) :
    Session Reply := do
  let c ← configuration tree start given
  let checker ← Session.checker c.rules
  return ⟨if c.wantsJson then checker.gaps.json.document else checker.gaps.listing, true⟩

/-- The session of a task. -/
def CommandLine.Task.session (tree : FileTree) : CommandLine.Task → Session Reply
  | version => return ⟨Report.line programVersion, true⟩
  | check start given => Session.check tree start given
  | gaps start given => Session.gaps tree start given

end PageLint
