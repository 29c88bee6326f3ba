import PageLint.Checker
import PageLint.Markup.Page

/-!
# The rule about nesting

A chart that closes itself has no children. When a component that belongs inside a chart follows
directly, it was meant to be a child and is lost.

* `Rule.lostChildren`: the self-closing charts with such a follower.
-/

namespace PageLint.Rule

/-- The kinds that may have children. -/
def isParent (k : ComponentKind) : Bool :=
  k == .lineChart || k == .barChart || k == .areaChart || k == .pointMap

/-- Does the text begin with a blank line: an end of a line and a line of spaces and tabs? -/
def startsWithBlankLine (t : Text) : Bool :=
  let isInlineBlank (c : Char) : Bool := c == ' ' || c == '\t'
  match t.dropWhile isInlineBlank with
  | '\n' :: t => (t.dropWhile isInlineBlank).head? == some '\n'
  | _ => false

/-- The text behind the first `<`. -/
def behindOpening (t : Text) : Text := (t.dropWhile (· != '<')).drop 1

/-- The child-only kind whose name stands at the head of the text. -/
def childAt? (t : Text) : Option ComponentKind :=
  [ComponentKind.referenceArea, .column].find? fun k =>
    match Text.after? k.name.toList t with
    | some rest => !rest.head?.any fun c => isAlphanumeric c || c == '_'
    | none => false

/-- The notice about a child that is lost. -/
def lostChild (child : ComponentKind) : Notice :=
  .error "COMPONENT_SELF_CLOSE" ("Self-closing chart tag followed by <" ++ child.name ++
    "> child; children are silently ignored. Change '/>' to '>' and add a closing tag.")

/-- The tags of a page that close themselves, of the kinds that may have children. -/
def closedParents (page : Page) : List Tag :=
  page.tags.filter fun t => t.selfClosing && isParent t.kind

/-- The text of a page behind a tag. -/
def textBehind (page : Page) (tag : Tag) : Text :=
  (Text.slice? page.text tag.stop (Text.utf8Size page.text)).getD []

/-- The children that self-closing charts lose. -/
def lostChildren (_ : Checker) (page : Page) : List Notice :=
  (closedParents page).filterMap fun t =>
    let rest := textBehind page t
    if startsWithBlankLine rest then none else (childAt? (behindOpening rest)).map lostChild

end PageLint.Rule
