import PageLint.Markup.ComponentKind
import PageLint.Markup.Attributes

/-!
# Tags

An opening or self-closing tag of a component: `<`, the component's name, the attributes, `>`. The
tag ends at the first `>`, wherever it stands, so a value that holds one cuts the tag short.

* `Tag.ofText`: every tag of a text in order.
* `Tag.ofKinds`: the tags of a text that are of some kinds.
* `Tag.hasSeveralY`, `Tag.hasYList`: whether the `y` attribute is a list.
-/

namespace PageLint

/-- An opening or self-closing component tag. -/
structure Tag where
  /-- The component. -/
  kind : ComponentKind
  /-- The text between the name and the end, without blanks at its end and without the slash that
  makes the tag self-closing. -/
  raw : Text
  /-- Does the tag close itself? -/
  selfClosing : Bool
  /-- The position of `<`, in bytes. -/
  start : Nat
  /-- The position just behind `>`, in bytes. -/
  stop : Nat
  deriving DecidableEq, Repr

namespace Tag

/-- Reads the kind of a tag and the text between its name and its end. -/
def reader : Reader (ComponentKind × Text) := fun _ t => do
  let t ← Text.after? ['<'] t
  let (kind, t) ← ComponentKind.read? t
  if t.head?.any isWordChar then none
  let (inner, t) ← Text.readUpTo? '>' t
  return ((kind, inner), t)

/-- The tag at a place where one was read. -/
def ofHit (h : Hit (ComponentKind × Text)) : Tag :=
  let inner := h.value.2.trimEnd
  let selfClosing := inner.getLast? = some '/'
  { kind := h.value.1
    raw := if selfClosing then inner.dropLast else inner
    selfClosing := selfClosing
    start := h.start
    stop := h.stop }

/-- The tags of the text, in order. -/
def ofText (t : Text) : List Tag := (t.hits reader).map ofHit

/-- The tags of the text that are of some kinds, in order. A tag of another kind is read and left
out, so that the scan goes on behind it all the same. -/
def ofKinds (kinds : List ComponentKind) (t : Text) : List Tag :=
  (t.hits reader).filterMap fun h => if kinds.contains h.value.1 then some (ofHit h) else none

variable (tag : Tag)

/-- The attributes of the tag. -/
def attributes : Attributes := Attributes.read tag.raw

/-- The value of an attribute, as it is written. -/
def get? (key : String) : Option Text := tag.attributes.get? key

/-- Does the tag have the attribute? -/
def has (key : String) : Bool := tag.attributes.has key

/-- The value of an attribute without its wrapping. -/
def bare? (key : String) : Option Text := tag.attributes.bare? key

/-- The title, if there is one that is not empty. -/
def title? : Option Text := (tag.bare? "title").filter (!·.isEmpty)

/-- The title as messages name it. -/
def title : Text := tag.title?.getD "(no title)".toList

/-- Is `y` a list that holds a comma, in braces or not? -/
def hasSeveralY : Bool :=
  (tag.get? "y").any fun v =>
    match v.dropWhile (· == '{') with
    | '[' :: items => items.contains ','
    | _ => false

/-- Is `y` a list, in braces or not? -/
def hasYList : Bool :=
  (tag.get? "y").any fun v => Text.startsWith v ['['] || Text.startsWith v ['{', '[']

/-- The value of an attribute that is written as a plain word. -/
def word? (key : String) : Option Text :=
  (tag.get? key).filter fun v => !v.isEmpty && v.all fun c => isAlphanumeric c || c == '_'

end Tag

end PageLint
