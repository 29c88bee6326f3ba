import PageLint.Checker
import PageLint.Markup.Page
import PageLint.Markup.Prose
import PageLint.Text.Folding

/-!
# Rules about the text of a page

The description, the prose before the first chart, navigation, sources, the opening sentence and
the prose of conditional views.

* `Rule.pageStructure`: what a page with data has around its charts.
* `Rule.opener`: the first sentence makes a claim.
* `Rule.conditionalViews`: every view has a sentence before its first component.
-/

namespace PageLint.Rule

/-! ### Structure -/

/-- Reads the description of front matter: the rest of the line, which must not be empty. -/
def descriptionLine : Reader Text := fun _ t => do
  let t ← Text.after? "description:".toList t
  match t.takeWhile (· != '\n') with
  | [] => none
  | line => some (line, t.dropWhile (· != '\n'))

/-- A description has from 20 to 160 characters. -/
def descriptionLength (page : Page) : List Notice :=
  match page.frontMatter.bind fun block => (block.hits descriptionLine).head? with
  | none => []
  | some h =>
    let size := (Text.trim h.value).length
    if size < 20 then
      [.warn "META_DESCRIPTION" ("description too short (" ++ toString size ++
        " chars); a concise one-liner helps readers and sidebar navigation")]
    else if 160 < size then
      [.warn "META_DESCRIPTION" ("description too long (" ++ toString size ++
        " chars, max 160); trim it for sidebar and link preview readability")]
    else []

/-- Does a component end the introduction of a page? -/
def endsIntroduction (k : ComponentKind) : Bool :=
  k.isVisualization || k == .grid || k == .bigValue

/-- The text between the front matter and the first component that ends the introduction. -/
def introduction? (page : Page) : Option Text :=
  let start := page.bodyOffset
  (page.tags.find? fun t => start ≤ t.start && endsIntroduction t.kind).map fun first =>
    (Text.slice? page.text start first.start).getD []

/-- An introduction has at least 30 words of prose. -/
def introductionLength (introduction : Text) : List Notice :=
  let size := (Text.words (Prose.strip introduction)).length
  if size < 30 then
    [.warn "PAGE_INTRO" ("Only " ++ toString size ++
      " words of prose before the first visualization; add a narrative paragraph so readers have context before the charts")]
  else []

/-- Reads the start of a source footnote or of a section for sources, in any case. -/
def sourceNote : Reader Unit := fun before t =>
  if before.all (· == '\n') then
    (["*Data", "*Source", "## Source"].findSome? fun head => Text.afterFolded? head.toList t).map
      ((), ·)
  else none

/-- Does the page have queries and visualizations? -/
def hasData (page : Page) : Bool :=
  !page.queries.isEmpty && page.hasTag (·.isVisualization)

/-- What a page with queries and visualizations has around them. -/
def surroundings (page : Page) (introduction : Option Text) : List Notice :=
  introduction.elim [] introductionLength ++
  (if page.fileName != "index.md".toList && !page.text.has "## See Also" then
    [.warn "PAGE_SEE_ALSO" "Data page missing '## See Also' section; add cross-links to help readers discover related pages"]
    else []) ++
  (if page.text.any sourceNote then []
    else [.warn "PAGE_FOOTER" "Data page missing source footnote; add *Data covers [period]. Source: [URL].* or a ## Sources section"])

/-- The structure of a page with data, and the length of the description on any page. -/
def pageStructure (_ : Checker) (page : Page) : List Notice :=
  descriptionLength page ++ if hasData page then surroundings page (introduction? page) else []

/-! ### The first sentence -/

/-- Openings that point at a chart. -/
def pointingOpeners : List String :=
  ["Looking at", "As we can see", "As shown", "We can see", "In this page", "In this visualization",
   "In this chart", "In this dashboard"]

/-- The first line of the body that is neither blank nor begins with a number sign. -/
def firstLine? (page : Page) : Option Text :=
  (page.body.lines.map Text.trim).find? fun l => !l.isEmpty && l.head? != some '#'

/-- The first line makes a claim and does not point at a chart. -/
def opener (_ : Checker) (page : Page) : List Notice :=
  match firstLine? page with
  | none => []
  | some line =>
    if pointingOpeners.any fun head => (Text.afterFolded? head.toList line).isSome then
      [.warn "ARTIFACT_OPENER" ("Page opens with artifact-forward sentence: '" ++
        Text.str (line.take 80) ++
        "...'; lead with a claim about the world, not a pointer to a chart")]
    else []

/-! ### Conditional views -/

/-- Reads the condition of a view that depends on an input. -/
def viewCondition : Reader Text := fun _ t => do
  let t ← (Text.after? "\x7b#if".toList t).or (Text.after? "\x7b:else if".toList t)
  let t ← Text.afterBlanks? t
  let behind ← Text.after? "inputs.".toList t
  let (name, _) ← Text.readUpTo? '}' behind
  if name.isEmpty then none
  Text.readUpTo? '}' t

/-- Reads the start of a condition, or of the end of one. -/
def viewBoundary : Reader Unit := fun _ t => do
  let t ← ["\x7b#if", "\x7b:else if", "\x7b/if"].findSome? fun head => Text.after? head.toList t
  if t.head?.any isWordChar then none else return ((), t)

/-- Ends of the names of inputs that switch between forms of one view. -/
def switchNames : List String := ["_chart_type", "_display", "_metric"]

/-- Values of inputs that switch between forms of one view. -/
def switchValues : List String :=
  ["\"Line Chart\"", "\"Area Chart\"", "\"Bar Chart\"", "\"Percentage\"", "\"Split\"", "\"Both\"",
   "\"Absolute\""]

/-- Reads a comparison with a quoted value and gives the value with its quotes. -/
def comparedValue : Reader Text := fun _ t => do
  let t ← Text.after? "===".toList t
  let t ← Text.after? ['"'] (t.dropWhile isSpace)
  let (value, t) ← Text.readUpTo? '"' t
  return ('"' :: value ++ ['"'], t)

/-- Does the condition switch between forms of one view only? -/
def isFormSwitch (condition : Text) : Bool :=
  let name := (Text.after? "inputs.".toList condition).bind Text.readWord?
  let byName := name.any fun (w, _) => switchNames.any fun s => Text.endsWith w s.toList
  let byValue := (condition.hits comparedValue).head?.any fun h => switchValues.contains h.value.str
  byName || byValue

/-- The end of a view, given its first byte, the text from there on, and the end of the page: the
next boundary, or the end of the page. -/
def viewEnd (start : Nat) (behind : Text) (size : Nat) : Nat :=
  match behind.hits viewBoundary with
  | h :: _ => start + h.start
  | [] => size

/-- The first component of the view between two positions that shows data. -/
def firstDisplay? (page : Page) (start stop : Nat) : Option Tag :=
  page.tags.find? fun t => t.kind.isDisplay && start ≤ t.start && t.start < stop

/-- The text of the last heading. -/
def lastHeading? (t : Text) : Option Text :=
  ((Text.splitOn '\n' t).filterMap Prose.headingText?).getLast?

/-- The number of characters of prose. -/
def proseLength (t : Text) : Nat := (Text.trim ((Prose.strip t).without Prose.anyTag)).length

/-- The notice about a view, given the text before the view and the text before the view's first
component. -/
def shortOpening? (before opening : Text) : Option Notice :=
  let size := proseLength opening
  if 20 ≤ size then none
  else
    let heading := (lastHeading? before).getD "(unknown section)".toList
    some (.warn "CONTENT_IFELSE" ("Conditional view '" ++ heading.str ++
      "' contains charts but no prose paragraph (" ++ toString size ++
      " chars before first component); add at least one orienting sentence before the first chart"))

/-- The notice about one view, if it begins with a component. -/
def viewNotice? (page : Page) (h : Hit Text) : Option Notice := do
  if isFormSwitch (Text.trim h.value) then none
  let size := Text.utf8Size page.text
  let stop := viewEnd h.stop ((Text.slice? page.text h.stop size).getD []) size
  let first ← firstDisplay? page h.stop stop
  shortOpening? ((Text.slice? page.text 0 h.start).getD [])
    ((Text.slice? page.text h.stop first.start).getD [])

/-- Every view that depends on an input has a sentence before its first component, unless the input
only switches between forms of one view. -/
def conditionalViews (_ : Checker) (page : Page) : List Notice :=
  (page.text.hits viewCondition).filterMap (viewNotice? page)

end PageLint.Rule
