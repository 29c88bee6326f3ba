import PageLint.Finding
import PageLint.Gap
import PageLint.Number.Binary64

/-!
# Rule tables

What a deployment can configure about the rules: which tables, columns and names they speak of, the
gaps in the data, the known issues, and the layout of the data directory. Every table is
independent of the others.

* `RuleTables`: all tables.
* `DataTables`: the part about the data directory.
-/

namespace PageLint

/-- An accepted deviation in the data. A date or an entity of `*` stands for all. -/
structure KnownIssue where
  /-- The data file. -/
  file : String
  /-- The period, as it is written in the file. -/
  date : String
  /-- The entity, as it is written in the file. -/
  entity : String
  /-- The column. -/
  column : String
  /-- Why it is accepted. -/
  note : String
  deriving DecidableEq, Repr

/-- A column that must not be queried. -/
structure UnreliableColumn where
  /-- The column. -/
  column : String
  /-- The column to use in its place. -/
  replacement : String
  /-- Why. -/
  reason : String
  deriving DecidableEq, Repr

/-- A marker line that pages need which meet all of the given conditions. A marker without any
condition is never asked for. -/
structure Marker where
  /-- The identifier of the rule. -/
  rule : String
  /-- The place of the line on the `x` axis. -/
  x : String
  /-- A part of the page's file name, in any case. -/
  pageNameContains : Option String
  /-- Texts of which one has to occur in a chart's attributes; none is no condition. -/
  chartColumns : List String
  /-- A pattern that has to match somewhere in the page. -/
  contentPattern : Option String
  /-- What to say when the line is missing. -/
  message : String
  deriving DecidableEq, Repr

/-- A source that pages have to cite when they use it. -/
structure Citation where
  /-- The text that shows the use. -/
  trigger : String
  /-- The address to cite. -/
  url : String
  deriving DecidableEq, Repr

/-- A family of categories that some charts get from a column and others list one by one. -/
structure SeriesOrder where
  /-- The column with the category. -/
  seriesColumn : String
  /-- The categories. -/
  categories : List String
  deriving DecidableEq, Repr

/-- What part a table of entities plays. -/
inductive TableRole where
  /-- Each of its entities needs a location. -/
  | primary
  /-- Its entities are in a primary table or on the allow list. -/
  | secondary
  /-- Nothing is asked of its entities. -/
  | other
  deriving DecidableEq, Repr

/-- A table with one row for each entity and period. -/
structure EntityTable where
  /-- The file. -/
  file : String
  /-- The name of the table in messages. -/
  label : String
  /-- The column with the entity. -/
  entityColumn : String
  /-- The column with the period. -/
  periodColumn : Option String
  /-- Entities that are none, such as totals. -/
  exclude : List String
  /-- What part the table plays. -/
  role : TableRole
  /-- Must the file be there? -/
  required : Bool
  deriving DecidableEq, Repr

/-- The table of the places of entities. -/
structure LocationTable where
  /-- The file. -/
  file : String
  /-- The column with the entity. -/
  entityColumn : String
  /-- The columns with the coordinates. -/
  coordinateColumns : List String
  /-- Must the file be there? -/
  required : Bool
  deriving DecidableEq, Repr

/-- An upper bound for each value of a column. -/
structure RangeCheck where
  /-- The identifier of the rule. -/
  rule : String
  /-- The file. -/
  file : String
  /-- The column. -/
  column : String
  /-- The name of the quantity in messages. -/
  label : String
  /-- The unit in messages. -/
  unit : String
  /-- The largest value that is accepted. -/
  max : Binary64
  /-- How severe a larger value is. -/
  severity : Severity
  deriving DecidableEq, Repr

/-- A lower bound for the sum of a column over one period. -/
structure AggregateCheck where
  /-- The identifier of the rule. -/
  rule : String
  /-- The file. -/
  file : String
  /-- The period, as it is written in the file. -/
  period : String
  /-- The column. -/
  column : String
  /-- The least sum that is accepted. -/
  minTotal : Binary64
  /-- The expected size in words. -/
  expected : String
  /-- How severe a smaller sum is. -/
  severity : Severity
  deriving DecidableEq, Repr

/-- How missing values are reported. -/
inductive ExpectMode where
  /-- One by one. -/
  | each
  /-- All in one finding. -/
  | all
  deriving DecidableEq, Repr

/-- Values that have to occur in a column. -/
structure ValueExpectation where
  /-- The column. -/
  column : String
  /-- The values. -/
  values : List String
  /-- How missing ones are reported. -/
  mode : ExpectMode
  /-- How severe a missing value is. -/
  severity : Severity
  /-- What to say in place of the usual message. -/
  message : Option String
  deriving DecidableEq, Repr

/-- The number of rows a file should have. -/
structure RowCount where
  /-- The number. -/
  expected : Nat
  /-- Is it exact, or the most there may be? -/
  exact : Bool
  /-- What to add to the message. -/
  note : Option String
  deriving DecidableEq, Repr

/-- A file that is checked on its own. -/
structure ReferenceFile where
  /-- The identifier of the rule. -/
  rule : String
  /-- The file. -/
  file : String
  /-- Must the file be there? -/
  required : Bool
  /-- What to add to the message when it is not. -/
  hint : Option String
  /-- Columns it must have. -/
  requiredColumns : List String
  /-- Values it must have. -/
  expect : List ValueExpectation
  /-- How many rows it should have. -/
  rows : Option RowCount
  deriving DecidableEq, Repr

/-- The tables about the data directory. -/
structure DataTables where
  /-- Tables of entities and periods. -/
  entityTables : List EntityTable
  /-- The table of the places of entities. -/
  locations : Option LocationTable
  /-- Entities that may be in a secondary table only, ascending. -/
  allowlistedEntities : List String
  /-- Bounds for single values. -/
  ranges : List RangeCheck
  /-- Bounds for sums. -/
  aggregates : List AggregateCheck
  /-- Files that are checked on their own. -/
  references : List ReferenceFile
  deriving DecidableEq, Repr

/-- All tables that the rules consult. -/
structure RuleTables where
  /-- Tables whose use on a page asks for null guards and gap annotations. -/
  primaryTables : List String
  /-- The text that must be in SQL that queries a primary table. -/
  nullGuard : String
  /-- The column on the time axis of charts. -/
  dateAxis : String
  /-- Retired names with the names to use, ascending by the retired name. -/
  deprecatedNames : List (String × String)
  /-- Accepted deviations in the data. -/
  knownIssues : List KnownIssue
  /-- Gaps in the data. -/
  gaps : List Gap.Interval
  /-- Columns whose values have to be capped after they are cast. -/
  cappedColumns : List String
  /-- Columns whose values are swapped in some periods. -/
  swappedColumns : List String
  /-- Columns that must not be queried. -/
  unreliableColumns : List UnreliableColumn
  /-- Columns with years as integers. -/
  integerYearColumns : List String
  /-- Parts of column names that ask for a number format. -/
  formatKeywords : List String
  /-- Parts of column names whose values can be below and above zero. -/
  zeroCrossKeywords : List String
  /-- Marker lines that pages need. -/
  markers : List Marker
  /-- Sources that pages have to cite. -/
  citations : List Citation
  /-- Families of categories. -/
  seriesOrders : List SeriesOrder
  /-- The tables about the data directory. -/
  data : DataTables
  deriving DecidableEq, Repr

end PageLint
