import PageLint.Checker
import PageLint.Markup.Page

/-!
# Rules about the use of queries

Which components and queries use which query blocks, and where the blocks stand.

* `Rule.queryPlacement`: blocks that feed visualizations stand below them.
* `Rule.queryReferences`: what is used is defined, what is defined is used, and once only.
-/

namespace PageLint.Rule

/-- A block that feeds a visualization belongs in the section for queries at the end of the page.
Blocks that feed summary cards only may stand above. Only the first misplaced block is reported. -/
def queryPlacement (_ : Checker) (page : Page) : List Notice :=
  let queries := page.queries
  let visualizations := page.tags.filter (·.kind.isVisualization)
  match visualizations with
  | [] => []
  | first :: _ =>
    if queries.length ≤ 1 || page.text.has "## Data Queries" then []
    else
      let misplaced := queries.find? fun q =>
        q.offset < first.start && visualizations.any fun t => t.bare? "data" == some q.name
      match misplaced with
      | none => []
      | some q => [.warn "SQL_POSITION" ("SQL block '" ++ q.name.str ++
          "' appears before visualizations; move all SQL to a '## Data Queries' section at the page bottom (narrative and charts first, queries last)")]

/-- Reads `data={name}`. -/
def dataReference : Reader Text := fun _ t => do
  let t ← Text.after? "data=\x7b".toList t
  let (name, t) ← Text.readWord? t
  let t ← Text.after? ['}'] t
  return (name, t)

/-- Reads `${name}`. -/
def compositionReference : Reader Text := fun _ t => do
  let t ← Text.after? ['$', '{'] t
  let (name, t) ← Text.readWord? t
  let t ← Text.after? ['}'] t
  return (name, t)

/-- What the fragments of a text name, in ascending order, each once. -/
def namesOf (read : Reader Text) (t : Text) : List Text :=
  Ascending.ofList ((t.hits read).map (·.value))

/-- A component with a query that is not defined stays blank; a block that nothing uses is usually
left over from a change of names; and names must be unique. -/
def queryReferences (_ : Checker) (page : Page) : List Notice :=
  let names := page.queries.map (·.name)
  let defined := Ascending.ofList names
  let components := namesOf dataReference page.text
  let compositions := namesOf compositionReference page.text
  let missing := components.filter (!defined.contains ·)
  let orphans :=
    if page.hasTag (·.isDisplay) then
      defined.filter fun n => !components.contains n && !compositions.contains n
    else []
  missing.map (fun n => .error "COMPONENT_QUERY_REF" ("Component references data=\x7b" ++ n.str ++
    "\x7d but no 'sql " ++ n.str ++
    "' block is defined; the chart will render blank. Define the query or fix the name.")) ++
  orphans.map (fun n => .warn "COMPONENT_QUERY_REF" ("SQL block '" ++ n.str ++
    "' is defined but never referenced by any component or query composition; dead query, or a data= attribute was renamed without updating the block")) ++
  (defined.filter fun n => 1 < names.count n).map fun n => .error "SQL_DUPLICATE_QUERY" ("Query '" ++
    n.str ++ "' is defined " ++ toString (names.count n) ++
    " times; query names must be unique on a page")

end PageLint.Rule
