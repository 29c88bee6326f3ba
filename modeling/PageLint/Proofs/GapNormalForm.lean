import PageLint.Proofs.GapMerging
import PageLint.Proofs.WrittenMonths

/-!
# Gap tables as a normal form

The ranges of a gap table can be written as intervals again, one for each source of each range. The
months of ranges have been read, so they have years of four digits (`Gap.writable_of_mem`), and an
interval that is written from them spans them (`Gap.Range.Writable.span_eq`). A list of ranges is
determined by what it declares (`Gap.ranges_eq_of_declares`), so the table of the written intervals is
the table they come from.

## Main results

* `Gap.ranges_rebuilt`: intervals that are written from ranges have these ranges.
* `Gap.Range.Writable.label_inj`: labels tell the months of ranges apart.
* `Gap.Table.ofIntervals_rebuilt`: **a gap table is a normal form**.
-/

namespace PageLint.Gap

/-- All ranges of a table. -/
def Table.allRanges (table : Table) : List Range := table.universal ++ table.sourceOnly

/-- What an interval declares: its source and the texts of its months. -/
def Interval.declaration (i : Interval) : String × String × String := (i.source, i.start, i.stop)

/-- What is to be declared for a range: its months, for each of its sources. -/
def Range.declarations (r : Range) : List (String × String × String) :=
  r.sources.map fun source => (source, r.start.label, r.stop.label)

/-- A table splits the ranges of its intervals, and leaves none out. -/
theorem mem_allRanges_iff {intervals : List Interval} {r : Range} :
    r ∈ (Table.ofIntervals intervals).allRanges ↔ r ∈ ranges intervals := by
  rw [Table.allRanges, Table.ofIntervals, List.mem_append, List.mem_filter, List.mem_filter,
    ← and_or_left]
  refine and_iff_left ?_
  cases r.isUniversal with
  | true => exact Or.inl rfl
  | false => exact Or.inr rfl

/-! ### Ranges that are written -/

/-- Have both months years of four digits, and are they in order? -/
structure Range.Writable (r : Range) : Prop where
  /-- The year of the first month. -/
  start_lt : r.start.year < 10000
  /-- The year of the last month. -/
  stop_lt : r.stop.year < 10000
  /-- The months are not inverted. -/
  ordered : ¬r.stop < r.start

/-- The months of ranges have been read, so they can be written. -/
theorem writable_of_mem {intervals : List Interval} {r : Range} (h : r ∈ ranges intervals) :
    r.Writable := by
  obtain ⟨hne, -, hmem⟩ := mem_ranges_iff.mp h
  obtain ⟨x, hx⟩ := List.exists_mem_of_ne_nil _ hne
  obtain ⟨i, -, -, hspan⟩ := (hmem x).mp hx
  obtain ⟨hstart, hstop, hordered⟩ := Interval.span_eq_ok_iff.mp hspan
  exact ⟨(Month.ofText?_eq_some_iff.mp hstart).year_lt, (Month.ofText?_eq_some_iff.mp hstop).year_lt,
    hordered⟩

/-- An interval with the months of a range, as they are written, spans these months. -/
theorem Range.Writable.span_eq {r : Range} (h : r.Writable) {i : Interval}
    (hstart : i.start = r.start.label) (hstop : i.stop = r.stop.label) :
    i.span = .ok (r.start, r.stop) := by
  rw [Interval.span_eq_ok_iff, hstart, hstop]
  exact ⟨Month.ofText?_label h.start_lt, Month.ofText?_label h.stop_lt, h.ordered⟩

/-! ### Rebuilding -/

/-- The ranges of a list of intervals depend only on what they declare. -/
theorem ranges_eq_of_declares {intervals others : List Interval}
    (h : ∀ a b x, Declares (ranges others) a b x ↔ Declares (ranges intervals) a b x) :
    ranges others = ranges intervals := by
  refine Ascending.eq_of_mem_iff (fun _ _ hab => hab.asymm) (normal_ranges others).ascending
    (normal_ranges intervals).ascending ?_
  intro r
  simp only [declares_ranges] at h
  simp only [mem_ranges_iff, h]

/-- **Intervals that are written from ranges have these ranges**, in whatever order and however often
each is written. -/
theorem ranges_rebuilt {intervals rebuilt : List Interval}
    (h : ∀ d, d ∈ rebuilt.map Interval.declaration ↔
      d ∈ (ranges intervals).flatMap Range.declarations) :
    ranges rebuilt = ranges intervals := by
  refine ranges_eq_of_declares fun a b x => ?_
  rw [declares_ranges]
  constructor
  · rintro ⟨i, hi, rfl, hspan⟩
    obtain ⟨r, hr, hd⟩ := List.mem_flatMap.mp ((h _).mp (List.mem_map_of_mem hi))
    obtain ⟨source, hsource, heq⟩ := List.mem_map.mp hd
    simp only [Interval.declaration, Prod.mk.injEq] at heq
    obtain ⟨rfl, hstart, hstop⟩ := heq
    have hwritten := (writable_of_mem hr).span_eq hstart.symm hstop.symm
    rw [hspan, Except.ok.injEq, Prod.mk.injEq] at hwritten
    exact ⟨r, hr, hwritten.1.symm, hwritten.2.symm, hsource⟩
  · rintro ⟨r, hr, rfl, rfl, hx⟩
    have hd : (x, r.start.label, r.stop.label) ∈ rebuilt.map Interval.declaration :=
      (h _).mpr (List.mem_flatMap.mpr ⟨r, hr, List.mem_map.mpr ⟨x, hx, rfl⟩⟩)
    obtain ⟨i, hi, heq⟩ := List.mem_map.mp hd
    simp only [Interval.declaration, Prod.mk.injEq] at heq
    obtain ⟨hsource, hstart, hstop⟩ := heq
    exact ⟨i, hi, hsource, (writable_of_mem hr).span_eq hstart hstop⟩

/-! ### Labels -/

/-- The label of a range of one month. -/
theorem Range.label_of_eq {r : Range} (h : r.start = r.stop) : r.label = r.start.label :=
  if_pos h

/-- The label of a range of several months. -/
theorem Range.label_of_ne {r : Range} (h : r.start ≠ r.stop) :
    r.label = r.start.label ++ "–" ++ r.stop.label :=
  if_neg h

/-- The label of a range of several months is longer than that of one month. -/
theorem Range.Writable.length_label {r : Range} (h : r.Writable) :
    r.label.toList.length = if r.start = r.stop then 8 else 17 := by
  by_cases hsame : r.start = r.stop
  · rw [if_pos hsame, label_of_eq hsame, Month.length_label h.start_lt]
  · rw [if_neg hsame, label_of_ne hsame, String.toList_append, String.toList_append,
      List.length_append, List.length_append, Month.length_label h.start_lt,
      Month.length_label h.stop_lt]
    rfl

/-- **Labels tell the months of ranges apart.** -/
theorem Range.Writable.label_inj {r r' : Range} (h : r.Writable) (h' : r'.Writable)
    (hlabel : r.label = r'.label) : r.start = r'.start ∧ r.stop = r'.stop := by
  have hlength := h.length_label
  rw [hlabel, h'.length_label] at hlength
  by_cases hsame : r.start = r.stop
  · by_cases hsame' : r'.start = r'.stop
    · rw [label_of_eq hsame, label_of_eq hsame'] at hlabel
      have hstart := Month.label_inj h.start_lt h'.start_lt hlabel
      exact ⟨hstart, hsame ▸ hsame' ▸ hstart⟩
    · rw [if_pos hsame, if_neg hsame'] at hlength
      omega
  · by_cases hsame' : r'.start = r'.stop
    · rw [if_neg hsame, if_pos hsame'] at hlength
      omega
    · rw [label_of_ne hsame, label_of_ne hsame', ← String.toList_inj] at hlabel
      simp only [String.toList_append, List.append_assoc] at hlabel
      obtain ⟨hstart, hrest⟩ := List.append_inj hlabel
        ((Month.length_label h.start_lt).trans (Month.length_label h'.start_lt).symm)
      have hstop := List.append_cancel_left hrest
      exact ⟨Month.label_inj h.start_lt h'.start_lt (String.toList_inj.mp hstart),
        Month.label_inj h.stop_lt h'.stop_lt (String.toList_inj.mp hstop)⟩

/-- **A gap table is a normal form.** If the intervals of `rebuilt`, in any order and with any notes,
are those that are written from the ranges of a table, one for each source of each range, their table
is that table; labels are part of it, as they are made of the months. The label of a range is its first
month if it begins and ends in one month, and both months with a dash between them if not; and no two
ranges of the table have the same label. -/
theorem Table.ofIntervals_rebuilt (intervals : List Interval) :
    (∀ rebuilt : List Interval,
      (rebuilt.map Interval.declaration).Perm
        ((Table.ofIntervals intervals).allRanges.flatMap Range.declarations) →
      Table.ofIntervals rebuilt = Table.ofIntervals intervals) ∧
    (∀ r ∈ (Table.ofIntervals intervals).allRanges,
      (r.firstDay.month = r.lastDay.month → r.label = r.firstDay.month.label) ∧
      (r.firstDay.month ≠ r.lastDay.month →
        r.label = r.firstDay.month.label ++ "–" ++ r.lastDay.month.label)) ∧
    ∀ r ∈ (Table.ofIntervals intervals).allRanges,
      ∀ r' ∈ (Table.ofIntervals intervals).allRanges, r.label = r'.label → r = r' := by
  refine ⟨?_, fun _ _ => ⟨Range.label_of_eq, Range.label_of_ne⟩, ?_⟩
  · intro rebuilt hperm
    have hranges : ranges rebuilt = ranges intervals := by
      refine ranges_rebuilt fun d => ?_
      rw [hperm.mem_iff]
      simp only [List.mem_flatMap, mem_allRanges_iff]
    rw [Table.ofIntervals, Table.ofIntervals, hranges]
  · intro r hr r' hr' hlabel
    rw [mem_allRanges_iff] at hr hr'
    obtain ⟨hstart, hstop⟩ := (writable_of_mem hr).label_inj (writable_of_mem hr') hlabel
    exact (normal_ranges intervals).eq_of_months hr hr' hstart hstop

/-- Two sources of one range, and one that is alone in the last year that can be written: the order,
the spelling of months and the notes of the intervals are gone in their table. -/
theorem Table.ofIntervals_rebuilt_depots :
    Table.ofIntervals [⟨"trips", "Dec 9999", "Dec 9999", ""⟩,
        ⟨"trips", "Feb 0980", "Mar 0980", "b"⟩, ⟨"depots", "Feb 0980", "Mar 0980", "a"⟩] =
      Table.ofIntervals [⟨"depots", "feb 0980", " MAR  0980", "no records"⟩,
        ⟨"trips", "dec 9999", "Dec 9999", ""⟩, ⟨"trips", "Feb 0980", "Mar 0980", ""⟩] :=
  (Table.ofIntervals_rebuilt _).1 _ (by decide +kernel)

end PageLint.Gap
