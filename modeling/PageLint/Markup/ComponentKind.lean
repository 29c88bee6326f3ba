import PageLint.Text.Scan

/-!
# Component kinds

The components a dashboard page is built from, and the groups of them that rules speak about.

* `ComponentKind.all`: the kinds in the order in which tag names are tried.
* `ComponentKind.ofName?`: the kind with a given name.
* `ComponentKind.read?`: the kind whose name stands at the head of a text.
-/

namespace PageLint

/-- A kind of component that the scanner recognises. -/
inductive ComponentKind where
  /-- A chart with lines. -/
  | lineChart
  /-- A chart with bars. -/
  | barChart
  /-- A chart with filled areas. -/
  | areaChart
  /-- A table of query rows. -/
  | dataTable
  /-- A summary card with one value. -/
  | bigValue
  /-- A map with points. -/
  | pointMap
  /-- A map with coloured areas. -/
  | areaMap
  /-- A layout grid. -/
  | grid
  /-- A shaded range inside a chart. -/
  | referenceArea
  /-- A marker line inside a chart. -/
  | referenceLine
  /-- A column of a table. -/
  | column
  deriving DecidableEq, Repr

namespace ComponentKind

/-- Every kind, in the order in which names are tried. -/
def all : List ComponentKind :=
  [lineChart, barChart, areaChart, dataTable, bigValue, pointMap, areaMap, grid, referenceArea,
   referenceLine, column]

/-- The name of the kind in a tag. -/
def name : ComponentKind → String
  | lineChart => "LineChart"
  | barChart => "BarChart"
  | areaChart => "AreaChart"
  | dataTable => "DataTable"
  | bigValue => "BigValue"
  | pointMap => "PointMap"
  | areaMap => "AreaMap"
  | grid => "Grid"
  | referenceArea => "ReferenceArea"
  | referenceLine => "ReferenceLine"
  | column => "Column"

/-- The kind with this name. -/
def ofName? (s : String) : Option ComponentKind := all.find? (·.name == s)

/-- The kind whose name the text begins with, and the text after the name. -/
def read? (t : Text) : Option (ComponentKind × Text) :=
  all.findSome? fun k => (Text.after? k.name.toList t).map (k, ·)

/-- Every kind is listed. -/
theorem mem_all (k : ComponentKind) : k ∈ all := by cases k <;> decide

/-- Names tell kinds apart. -/
theorem ofName?_name (k : ComponentKind) : ofName? k.name = some k := by cases k <;> decide

/-- Line, bar and area charts. -/
def isChart : ComponentKind → Bool
  | lineChart | barChart | areaChart => true
  | _ => false

/-- Charts, tables and maps. -/
def isVisualization : ComponentKind → Bool
  | dataTable | pointMap | areaMap => true
  | k => k.isChart

/-- Whatever shows the rows of a query: visualizations and summary cards. -/
def isDisplay (k : ComponentKind) : Bool := k.isVisualization || k == bigValue

/-- Components that mean something only inside a chart. -/
def isChildOnly (k : ComponentKind) : Bool := k == referenceArea || k == column

end ComponentKind

end PageLint
