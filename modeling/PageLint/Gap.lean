import PageLint.Month
import PageLint.Ascending

/-!
# Gaps in the data

A source that has no records for some months declares a gap interval. Intervals with the same first
and last month are one range. A range that two or more sources share is universal: every page that
charts a primary table has to annotate it. Any other range matters only to pages that query its
source.

* `Gap.Table.ofIntervals`: the ranges of a list of intervals, each list ascending by time.
* `Gap.Interval.span`: the months of an interval, or why it is passed over.
-/

namespace PageLint.Gap

/-- A declared gap of one source. Months are written `Mon YYYY`. -/
structure Interval where
  /-- The table without records. -/
  source : String
  /-- The first month of the gap. -/
  start : String
  /-- The last month of the gap. -/
  stop : String
  /-- Why the records are missing. -/
  note : String := ""
  deriving DecidableEq, Repr

/-- A gap over the months from `start` to `stop`, with all sources that declare it. -/
structure Range where
  /-- The first month. -/
  start : Month
  /-- The last month. -/
  stop : Month
  /-- The sources in ascending order, each once. -/
  sources : List String
  deriving DecidableEq, Repr

namespace Range

/-- The first day of the gap. -/
def startIso (r : Range) : String := r.start.firstDay

/-- The last day of the gap. -/
def stopIso (r : Range) : String := r.stop.lastDay

/-- The months of the gap: one of them when there is only one, else the first and the last. -/
def label (r : Range) : String :=
  if r.start = r.stop then r.start.label else r.start.label ++ "–" ++ r.stop.label

/-- Do at least two sources share the gap? -/
def isUniversal (r : Range) : Bool := 2 ≤ r.sources.length

end Range

/-- Why an interval is passed over. -/
inductive Skip where
  /-- One of the months cannot be read. -/
  | unparseable
  /-- The last month is before the first. -/
  | inverted
  deriving DecidableEq, Repr

/-- The first and the last month of an interval. -/
def Interval.span (i : Interval) : Except Skip (Month × Month) :=
  match Month.ofText? i.start.toList, Month.ofText? i.stop.toList with
  | some start, some stop => if stop < start then .error .inverted else .ok (start, stop)
  | _, _ => .error .unparseable

/-- Adds a source to the range with these months in a list of ranges that ascends by first and last
month. -/
def addSource (start stop : Month) (source : String) : List Range → List Range
  | [] => [⟨start, stop, [source]⟩]
  | r :: rs =>
    if start < r.start ∨ (start = r.start ∧ stop < r.stop) then
      ⟨start, stop, [source]⟩ :: r :: rs
    else if start = r.start ∧ stop = r.stop then
      { r with sources := Ascending.insert source r.sources } :: rs
    else r :: addSource start stop source rs

/-- Adds an interval to a list of ranges, unless it is passed over. -/
def addInterval (rs : List Range) (i : Interval) : List Range :=
  match i.span with
  | .ok (start, stop) => addSource start stop i.source rs
  | .error _ => rs

/-- The ranges of the intervals, ascending by first and last month. -/
def ranges (intervals : List Interval) : List Range := intervals.foldl addInterval []

/-- The ranges of a configuration. -/
structure Table where
  /-- The ranges that several sources share. -/
  universal : List Range
  /-- The ranges of a single source. -/
  sourceOnly : List Range
  deriving DecidableEq, Repr

/-- The ranges of the intervals. -/
def Table.ofIntervals (intervals : List Interval) : Table :=
  let rs := ranges intervals
  ⟨rs.filter (·.isUniversal), rs.filter (!·.isUniversal)⟩

end PageLint.Gap
