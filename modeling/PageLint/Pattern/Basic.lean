import PageLint.Pattern.CharSet

/-!
# Patterns

A pattern says which texts match it. It is built from sets of characters and from conditions on a
place between two characters, by sequence, choice and repetition.

Whether a pattern occurs in a text is decided by following all ways through the pattern at once: a
set of places in the text is taken to the set of places that the pattern can lead to.

* `Pattern.advance`: the places that a pattern leads to.
* `Pattern.occursIn`: does the pattern match somewhere in a text?
* `Pattern.cost`: the room that a pattern takes when it is unfolded.
-/

namespace PageLint

/-- A condition on a place in a text. -/
inductive Place where
  /-- The start of the text. -/
  | textStart
  /-- The end of the text. -/
  | textEnd
  /-- The start of a line. -/
  | lineStart
  /-- The end of a line. -/
  | lineEnd
  /-- The start of a line that may end with a carriage return. -/
  | lineStartReturn
  /-- The end of a line that may end with a carriage return. -/
  | lineEndReturn
  /-- Between a word character and another character or an end of the text. -/
  | wordBoundary (word : CharSet)
  /-- Anywhere else. -/
  | noWordBoundary (word : CharSet)
  /-- The start of a word. -/
  | wordStart (word : CharSet)
  /-- The end of a word. -/
  | wordEnd (word : CharSet)
  /-- Behind something that is no word. -/
  | notBehindWord (word : CharSet)
  /-- In front of something that is no word. -/
  | notBeforeWord (word : CharSet)

/-- A pattern. -/
inductive Pattern where
  /-- The empty text. -/
  | empty
  /-- One character of a set. -/
  | char (set : CharSet)
  /-- The empty text at a place. -/
  | place (p : Place)
  /-- One pattern behind the other. -/
  | seq (p q : Pattern)
  /-- One pattern or the other. -/
  | alt (p q : Pattern)
  /-- The pattern at least `min` times, and at most `max` times if there is a bound. -/
  | times (min : Nat) (max : Option Nat) (p : Pattern)

namespace Place

/-- Does the condition hold between the characters `before` and `after`? -/
def holds (before after : Option Char) : Place → Bool
  | textStart => before.isNone
  | textEnd => after.isNone
  | lineStart => before.all (· == '\n')
  | lineEnd => after.all (· == '\n')
  | lineStartReturn => before.all fun c => c == '\n' || (c == '\r' && after != some '\n')
  | lineEndReturn => after.all fun c => c == '\r' || (c == '\n' && before != some '\r')
  | wordBoundary w => before.any w.holds != after.any w.holds
  | noWordBoundary w => before.any w.holds == after.any w.holds
  | wordStart w => !before.any w.holds && after.any w.holds
  | wordEnd w => before.any w.holds && !after.any w.holds
  | notBehindWord w => !before.any w.holds
  | notBeforeWord w => !after.any w.holds

end Place

namespace Pattern

/-- Places in a text, ascending. -/
abbrev Places := List Nat

/-- The places of both lists. -/
def merge : Places → Places → Places
  | [], ks => ks
  | is, [] => is
  | i :: is, k :: ks =>
    if i < k then i :: merge is (k :: ks)
    else if k < i then k :: merge (i :: is) ks
    else i :: merge is ks
termination_by is ks => is.length + ks.length

/-- The places of the first list that are not in the second. -/
def minus : Places → Places → Places
  | [], _ => []
  | is, [] => is
  | i :: is, k :: ks =>
    if i < k then i :: minus is (k :: ks)
    else if k < i then minus (i :: is) ks
    else minus is ks
termination_by is ks => is.length + ks.length

/-- Takes a step a fixed number of times, or until it does not lead to other places. -/
def steps (step : Places → Places) : Nat → Places → Places
  | 0, places => places
  | n + 1, places =>
    let next := step places
    if next = places then places else steps step n next

/-- All places that up to `n` steps lead to from the `fresh` places; those in `seen` have been
followed already. -/
def spread (step : Places → Places) : Nat → (fresh seen : Places) → Places
  | 0, _, seen => seen
  | n + 1, fresh, seen =>
    match minus (step fresh) seen with
    | [] => seen
    | next => spread step n next (merge seen next)

/-- The places that the pattern leads to from the given places. -/
def advance (text : Array Char) : Pattern → Places → Places
  | empty, places => places
  | char set, places =>
    places.filterMap fun i =>
      match text[i]? with
      | some c => if set.holds c then some (i + 1) else none
      | none => none
  | place p, places =>
    places.filter fun i =>
      let before := if i = 0 then none else text[i - 1]?
      p.holds before text[i]?
  | seq p q, places => q.advance text (p.advance text places)
  | alt p q, places => merge (p.advance text places) (q.advance text places)
  | times min max p, places =>
    let first := steps (p.advance text) min places
    let more := match max with
      | some n => Nat.min (n - min) (text.size + 1)
      | none => text.size + 1
    spread (p.advance text) more first first

/-- Does the pattern match somewhere in the text? -/
def occursIn (p : Pattern) (t : Text) : Bool :=
  !(p.advance t.toArray (List.range (t.length + 1))).isEmpty

/-- The room that the pattern takes when repetitions are unfolded, in bytes. -/
def cost : Pattern → Nat
  | empty => 0
  | char set => 32 * set.size
  | place _ => 32
  | seq p q => p.cost + q.cost
  | alt p q => p.cost + q.cost + 32
  | times min max p =>
    match max with
    | some n => n * p.cost + 32 * (n - min)
    | none => (min + 1) * p.cost + 32

/-- The room that a pattern may take. -/
def maxCost : Nat := 10 * Nat.pow 2 20

end Pattern

end PageLint
