import PageLint.Log.Event
import PageLint.Text.CharClass
import PageLint.Value

/-!
# Log filters

Which events are written. A filter is a list of directives, each of which sets the least level for
some parts of the program; the directive that names a part most closely decides.

* `Log.Filter.lets`: does the filter let an event through?
* `Log.Filter.ofText?`: filters are written as directives with commas between them, such as
  `warn,vizlint=debug`.
* `Log.Filter.ofVerbosity`: the filter for a count of requests for log lines.
-/

namespace PageLint.Log

/-- The level up to which events are let through; without a level there are none. -/
abbrev Limit := Option Level

/-- The limit that a text means: a level in any case, its number, or `off`. The empty text stands for
errors. -/
def Limit.ofText? (t : Text) : Option Limit :=
  let digits := match t with
    | '+' :: digits => digits
    | _ => t
  match Value.ofDigits? 10 digits with
  | some 0 => some none
  | some n => (Level.all.find? (·.rank = n)).map some
  | none =>
    if t = [] then some (some .error)
    else if t.map Char.toUpper = "OFF".toList then some none
    else (Level.all.find? fun l => l.name.toList = t.map Char.toUpper).map some

/-- A limit for the parts of the program whose names begin with a text. -/
structure Directive where
  /-- The beginning of the names. -/
  part : Text
  /-- The limit. -/
  limit : Limit
  deriving DecidableEq, Repr

/-- May the character stand at the start of a directive? -/
def startsDirective (c : Char) : Bool := isAlphanumeric c || c = '-' || c = ':' || c = '_'

/-- The directive that a text means: a limit for all parts, the name of a part, or both with an equals
sign between them. A name alone lets everything through. -/
def Directive.ofText? (t : Text) : Option Directive :=
  if t.head?.any startsDirective then
    match Text.splitAt? ['='] t with
    | some (part, level) => (Limit.ofText? level).map (⟨part, ·⟩)
    | none =>
      match Limit.ofText? t with
      | some limit => some ⟨[], limit⟩
      | none => some ⟨t, some .trace⟩
  else none

/-- The directives of a filter. -/
abbrev Filter := List Directive

namespace Filter

/-- The closer of two directives: the one that names more of a part, and the second of two that name
as much. -/
def closer (d e : Directive) : Directive := if e.part.length < d.part.length then d else e

/-- The limit for a part: that of the closest directive about it. -/
def limit (f : Filter) (part : String) : Limit :=
  match f.filter fun d => Text.startsWith part.toList d.part with
  | [] => none
  | d :: ds => (ds.foldl closer d).limit

/-- Does the filter let something of this part and level through? -/
def allows (f : Filter) (part : String) (l : Level) : Bool :=
  (f.limit part).any fun most => l.rank ≤ most.rank

/-- Does the filter let the event through? -/
def lets (f : Filter) (e : Event) : Bool := f.allows e.part e.level

/-- Is an activity shown with the events during it? -/
def shows (f : Filter) (a : Activity) : Bool := f.allows a.part .info

/-- The lines of the events that are let through. -/
def line (f : Filter) (e : Event) : List Span := if f.lets e then e.line f.shows else []

/-- The filter that a text means. Without directives only errors are let through. -/
def ofText? (t : Text) : Option Filter :=
  match ((Text.splitOn ',' t).filter (· ≠ [])).mapM Directive.ofText? with
  | some [] => some [⟨[], some .error⟩]
  | f => f

/-- The level for a count of requests for log lines. -/
def levelOfVerbosity : Nat → Level
  | 0 => .warn
  | 1 => .debug
  | _ + 2 => .trace

/-- The filter for a count of requests for log lines: they are about the parts of this program. -/
def ofVerbosity (name : String) (n : Nat) : Filter :=
  [⟨[], some .warn⟩, ⟨name.toList, some (levelOfVerbosity n)⟩]

end Filter

end PageLint.Log
