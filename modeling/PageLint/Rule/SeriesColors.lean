import PageLint.Checker
import PageLint.Markup.Page
import PageLint.Text.Lowercase

/-!
# The rule about colours of series

Charts that get their categories from a column sort them and colour them in that order. A chart
that lists the same categories one by one must list them in order, or the colours differ between
the two charts.

* `Rule.seriesColors`: the lists that are out of order.
-/

namespace PageLint.Rule

/-- A category or an item of a list without separators and quotes, in lower case. -/
def normalizeItem (t : Text) : Text :=
  (t.filter fun c => !(c == '-' || c == '_' || c == '\'' || c == '"' || c == ' ')).flatMap lowerChar

/-- Reads a list that is given as `y` in braces, and gives its text without the brackets. -/
def yList : Reader Text := fun _ t => do
  let t ← (Text.after? "y=\x7b[".toList t).or (Text.after? "Y=\x7b[".toList t)
  let (items, t) ← Text.readUpTo? ']' t
  if items.isEmpty then none
  let t ← Text.after? ['}'] t
  return (items, t)

/-- The categories that the items of a list hold, in the order of the list. -/
def listedCategories (categories : List Text) (items : Text) : List Text :=
  let items := Text.stripWhile (fun c => c == '[' || c == ']') items
  (items.splitOn ',').filterMap fun item => categories.find? (Text.occursIn · (normalizeItem item))

/-- Texts in ascending order. -/
def sortTexts (ts : List Text) : List Text := ts.mergeSort fun a b => !(decide (b < a))

/-- The notices about the lists of one family of categories. -/
def familyColors (page : Page) (family : SeriesOrder) : List Notice :=
  let categories := family.categories.map fun c => normalizeItem c.toList
  (page.text.hits yList).filterMap fun h =>
    let seen := listedCategories categories h.value
    let sorted := sortTexts seen
    if seen.length < 2 ∨ seen = sorted then none
    else
      some (.warn "COMPONENT_COLOR_ORDER" ("Wide-format chart lists " ++
        (Text.join ", ".toList seen).str ++ " but the series=" ++ family.seriesColumn ++
        " chart sorts alphabetically (" ++ (Text.join ", ".toList sorted).str ++
        "); colours will be swapped between charts. Reorder y=[...] to match."))

/-- The lists of categories that are out of order, for each family that the page gets from a column
somewhere. -/
def seriesColors (checker : Checker) (page : Page) : List Notice :=
  let lower := page.text.lower
  checker.tables.seriesOrders.flatMap fun family =>
    let marker := "series=".toList ++ Text.lower family.seriesColumn.toList
    if Text.occursIn marker lower then familyColors page family else []

end PageLint.Rule
