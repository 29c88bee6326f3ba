import Mathlib.Data.Finset.Card
import PageLint.Proofs.Calendar
import PageLint.Proofs.Ordering

/-!
# Merging gap intervals

The gap table of a list of intervals, as a set of ranges of days with their sources. Intervals are
added one by one to a list of ranges. What a list of ranges declares is the relation
`Gap.Declares`: adding an interval adds one source to it (`Gap.declares_addSource`), so a list of
intervals declares what its members span (`Gap.declares_ranges`). The list stays in a normal form
on the way (`Gap.Normal`), and a list in normal form is determined by what it declares.

## Main results

* `Gap.mem_ranges_iff`: the ranges of a list of intervals, with exactly the sources that declare
  them.
* `Gap.ranges_congr`: the ranges depend only on which intervals there are, not on their order or
  repetition.
* `Gap.Table.ofIntervals_merges`: **the table is exactly the merged intervals**, over calendar days.
-/

namespace PageLint.Gap

/-! ### Spans over days -/

/-- The months of an interval that is not passed over. -/
theorem Interval.span_eq_ok_iff {i : Interval} {a b : Month} :
    i.span = .ok (a, b) ↔
      Month.ofText? i.start.toList = some a ∧ Month.ofText? i.stop.toList = some b ∧ ¬b < a := by
  rw [span]
  split
  · next start stop hstart hstop =>
    rw [hstart, hstop]
    split
    · next hinv =>
      simp only [reduceCtorEq, false_iff]
      rintro ⟨ha, hb, hnot⟩
      obtain rfl := Option.some.inj ha
      obtain rfl := Option.some.inj hb
      exact hnot hinv
    · next hord =>
      simp only [Except.ok.injEq, Prod.mk.injEq, Option.some.injEq]
      constructor
      · rintro ⟨rfl, rfl⟩
        exact ⟨rfl, rfl, hord⟩
      · rintro ⟨rfl, rfl, -⟩
        exact ⟨rfl, rfl⟩
  · next hnone =>
    simp only [reduceCtorEq, false_iff]
    rintro ⟨ha, hb, -⟩
    exact hnone a b ha hb

/-- Does the interval run from the day `s` to the day `e`? Its start month can be read and `s` is
the first day of it, its end month can be read and `e` is the last calendar day of it, and `s` is
not after `e`. -/
def Interval.Spans (i : Interval) (s e : Day) : Prop :=
  ∃ a b, Month.ofText? i.start.toList = some a ∧ s = a.first ∧
    Month.ofText? i.stop.toList = some b ∧ b.IsLastDay e ∧ s ≤ e

/-- The days an interval runs over are those of the months it spans. -/
theorem Interval.spans_first_last_iff {i : Interval} {a b : Month} :
    i.Spans a.first b.last ↔ i.span = .ok (a, b) := by
  rw [span_eq_ok_iff]
  constructor
  · rintro ⟨a', b', ha, hfirst, hb, hlast, hle⟩
    obtain rfl : a = a' := congrArg Day.month hfirst
    obtain rfl : b = b' := hlast.1
    exact ⟨ha, hb, Month.first_le_last_iff.mp hle⟩
  · rintro ⟨ha, hb, hle⟩
    exact ⟨a, b, ha, rfl, hb, Month.isLastDay_iff.mpr rfl, Month.first_le_last_iff.mpr hle⟩

/-- An interval that runs over days runs over whole months. -/
theorem Interval.Spans.eq_first_last {i : Interval} {s e : Day} (h : i.Spans s e) :
    ∃ a b : Month, s = a.first ∧ e = b.last := by
  obtain ⟨a, b, -, hs, -, he, -⟩ := h
  exact ⟨a, b, hs, Month.isLastDay_iff.mp he⟩

namespace Range

/-- The first day of the gap. -/
def firstDay (r : Range) : Day := r.start.first

/-- The last day of the gap. -/
def lastDay (r : Range) : Day := r.stop.last

/-- The first day as it is written in annotations. -/
theorem startIso_eq (r : Range) : r.startIso = r.firstDay.iso := rfl

/-- The last day as it is written in annotations. -/
theorem stopIso_eq (r : Range) : r.stopIso = r.lastDay.iso := rfl

/-- The order of ranges: by the first day, then by the last. -/
def Before (r r' : Range) : Prop :=
  r.firstDay < r'.firstDay ∨ (r.firstDay = r'.firstDay ∧ r.lastDay < r'.lastDay)

/-- First days are equal exactly when their months are. -/
theorem firstDay_eq_iff {r r' : Range} : r.firstDay = r'.firstDay ↔ r.start = r'.start :=
  ⟨fun h => congrArg Day.month h, fun h => congrArg Month.first h⟩

/-- Last days are equal exactly when their months are. -/
theorem lastDay_eq_iff {r r' : Range} : r.lastDay = r'.lastDay ↔ r.stop = r'.stop :=
  ⟨fun h => congrArg Day.month h, fun h => congrArg Month.last h⟩

/-- The order of ranges in terms of months. -/
theorem before_iff {r r' : Range} :
    r.Before r' ↔ r.start < r'.start ∨ (r.start = r'.start ∧ r.stop < r'.stop) := by
  rw [Before, firstDay_eq_iff]
  exact or_congr Month.first_lt_first_iff (and_congr_right fun _ => Month.last_lt_last_iff)

/-- No range is before itself, nor before one that is before it. -/
theorem Before.asymm {r r' : Range} (h : r.Before r') : ¬r'.Before r := by
  rcases h with h | ⟨heq, h⟩
  · rintro (h' | ⟨heq', -⟩)
    · exact Nat.lt_asymm h h'
    · rw [heq'] at h
      exact Nat.lt_irrefl _ h
  · rintro (h' | ⟨-, h'⟩)
    · rw [heq] at h'
      exact Nat.lt_irrefl _ h'
    · exact Nat.lt_asymm h h'

/-- The order of ranges is transitive. -/
theorem Before.trans {r r' r'' : Range} (h : r.Before r') (h' : r'.Before r'') : r.Before r'' := by
  rcases h with h | ⟨heq, h⟩ <;> rcases h' with h' | ⟨heq', h'⟩
  · exact Or.inl (Nat.lt_trans h h')
  · exact Or.inl (heq' ▸ h)
  · exact Or.inl (heq ▸ h')
  · exact Or.inr ⟨heq.trans heq', Nat.lt_trans h h'⟩

end Range

/-! ### What a list of ranges declares -/

/-- Does a list of ranges name `source` for the months from `a` to `b`? -/
def Declares (rs : List Range) (a b : Month) (source : String) : Prop :=
  ∃ r ∈ rs, r.start = a ∧ r.stop = b ∧ source ∈ r.sources

/-- No ranges declare nothing. -/
@[simp] theorem not_declares_nil {a b : Month} {x : String} : ¬Declares [] a b x := by
  rintro ⟨r, hr, -⟩
  exact List.not_mem_nil hr

/-- A range in front declares its own span for its sources, in addition to what the others declare. -/
@[simp] theorem declares_cons {r : Range} {rs : List Range} {a b : Month} {x : String} :
    Declares (r :: rs) a b x ↔ (r.start = a ∧ r.stop = b ∧ x ∈ r.sources) ∨ Declares rs a b x := by
  simp only [Declares, List.mem_cons, exists_eq_or_imp]

/-- **Step.** Adding a source for some months declares that, and nothing else is changed. -/
theorem declares_addSource {start stop a b : Month} {source x : String} {rs : List Range} :
    Declares (addSource start stop source rs) a b x ↔
      (start = a ∧ stop = b ∧ x = source) ∨ Declares rs a b x := by
  induction rs with
  | nil => simp only [addSource, declares_cons, List.mem_singleton]
  | cons r rs ih =>
      rw [addSource]
      split
      · rw [declares_cons, List.mem_singleton]
      · split
        · next hsame =>
          obtain ⟨rfl, rfl⟩ := hsame
          simp only [declares_cons, Ascending.mem_insert_iff, and_or_left, or_assoc]
        · rw [declares_cons, ih, declares_cons]
          exact or_left_comm

/-- **Step.** Adding an interval declares what it spans. -/
theorem declares_addInterval {i : Interval} {a b : Month} {x : String} {rs : List Range} :
    Declares (addInterval rs i) a b x ↔
      (i.source = x ∧ i.span = .ok (a, b)) ∨ Declares rs a b x := by
  rw [addInterval]
  split
  · next start stop hspan =>
    rw [declares_addSource, hspan]
    simp only [Except.ok.injEq, Prod.mk.injEq]
    constructor
    · rintro (⟨rfl, rfl, rfl⟩ | h)
      · exact Or.inl ⟨rfl, rfl, rfl⟩
      · exact Or.inr h
    · rintro (⟨rfl, rfl, rfl⟩ | h)
      · exact Or.inl ⟨rfl, rfl, rfl⟩
      · exact Or.inr h
  · next hspan => simp [hspan]

/-- **Run.** A list of intervals declares what its members span. -/
theorem declares_ranges {intervals : List Interval} {a b : Month} {x : String} :
    Declares (ranges intervals) a b x ↔
      ∃ i ∈ intervals, i.source = x ∧ i.span = .ok (a, b) := by
  suffices h : ∀ rs, Declares (intervals.foldl addInterval rs) a b x ↔
      Declares rs a b x ∨ ∃ i ∈ intervals, i.source = x ∧ i.span = .ok (a, b) by
    rw [ranges, h]
    simp only [not_declares_nil, false_or]
  induction intervals with
  | nil => simp
  | cons i intervals ih =>
      intro rs
      rw [List.foldl_cons, ih, declares_addInterval]
      simp only [List.mem_cons, exists_eq_or_imp]
      rw [or_assoc]
      exact or_left_comm

/-! ### The normal form -/

/-- A list of ranges in **normal form**: ranges ascend by time, each has a source, and the sources
of each ascend. -/
structure Normal (rs : List Range) : Prop where
  /-- Earlier ranges come first, and no two have the same months. -/
  ascending : rs.Pairwise Range.Before
  /-- A range is there because a source declares it. -/
  sources_ne_nil : ∀ r ∈ rs, r.sources ≠ []
  /-- The sources of a range are a set. -/
  sources_ascending : ∀ r ∈ rs, r.sources.Pairwise (· < ·)

/-- The months of the ranges after adding a source. -/
theorem months_of_mem_addSource {start stop : Month} {source : String} {rs : List Range}
    {r : Range} (h : r ∈ addSource start stop source rs) :
    (r.start = start ∧ r.stop = stop) ∨ ∃ r' ∈ rs, r.start = r'.start ∧ r.stop = r'.stop := by
  induction rs with
  | nil =>
      obtain rfl := List.mem_singleton.mp h
      exact Or.inl ⟨rfl, rfl⟩
  | cons r₀ rs ih =>
      rw [addSource] at h
      split at h
      · rcases List.mem_cons.mp h with rfl | h
        · exact Or.inl ⟨rfl, rfl⟩
        · exact Or.inr ⟨r, h, rfl, rfl⟩
      · split at h
        · rcases List.mem_cons.mp h with rfl | h
          · exact Or.inr ⟨r₀, List.mem_cons_self, rfl, rfl⟩
          · exact Or.inr ⟨r, List.mem_cons_of_mem _ h, rfl, rfl⟩
        · rcases List.mem_cons.mp h with rfl | h
          · exact Or.inr ⟨r, List.mem_cons_self, rfl, rfl⟩
          · refine (ih h).imp_right ?_
            rintro ⟨r', hr', hm⟩
            exact ⟨r', List.mem_cons_of_mem _ hr', hm⟩

/-- The order of ranges sees only their months. -/
theorem Range.Before.of_months {r r₁ r₂ : Range} (h : r.Before r₁) (hstart : r₂.start = r₁.start)
    (hstop : r₂.stop = r₁.stop) : r.Before r₂ := by
  rw [before_iff] at h ⊢
  rwa [hstart, hstop]

/-- The tail of a normal form is in normal form. -/
theorem Normal.tail {r : Range} {rs : List Range} (h : Normal (r :: rs)) : Normal rs :=
  ⟨(List.pairwise_cons.mp h.ascending).2,
    fun r' hr' => h.sources_ne_nil r' (List.mem_cons_of_mem _ hr'),
    fun r' hr' => h.sources_ascending r' (List.mem_cons_of_mem _ hr')⟩

/-- A range before all others can be put in front of a normal form. -/
theorem Normal.cons {r : Range} {rs : List Range} (h : Normal rs)
    (hbefore : ∀ r' ∈ rs, r.Before r') (hne : r.sources ≠ [])
    (hasc : r.sources.Pairwise (· < ·)) : Normal (r :: rs) := by
  refine ⟨List.pairwise_cons.mpr ⟨hbefore, h.ascending⟩, ?_, ?_⟩
  · exact List.forall_mem_cons.mpr ⟨hne, h.sources_ne_nil⟩
  · exact List.forall_mem_cons.mpr ⟨hasc, h.sources_ascending⟩

/-- Months that are neither before those of a range nor the same are behind them. -/
theorem Range.before_of_not {r : Range} {start stop : Month} (sources : List String)
    (hbefore : ¬(start < r.start ∨ (start = r.start ∧ stop < r.stop)))
    (hsame : ¬(start = r.start ∧ stop = r.stop)) : r.Before ⟨start, stop, sources⟩ := by
  rw [before_iff]
  rcases Month.lt_trichotomy start r.start with h | h | h
  · exact absurd (Or.inl h) hbefore
  · rcases Month.lt_trichotomy stop r.stop with h' | h' | h'
    · exact absurd (Or.inr ⟨h, h'⟩) hbefore
    · exact absurd ⟨h, h'⟩ hsame
    · exact Or.inr ⟨h.symm, h'⟩
  · exact Or.inl h

/-- **Step.** Adding a source keeps the normal form. -/
theorem Normal.addSource {start stop : Month} {source : String} {rs : List Range}
    (h : Normal rs) : Normal (addSource start stop source rs) := by
  induction rs with
  | nil => exact h.cons (fun _ hr => absurd hr List.not_mem_nil) (by simp) (by simp)
  | cons r rs ih =>
      have hhead := (List.pairwise_cons.mp h.ascending).1
      have hne := h.sources_ne_nil r List.mem_cons_self
      have hasc := h.sources_ascending r List.mem_cons_self
      rw [Gap.addSource]
      split
      · next hbefore =>
        have hr : Range.Before ⟨start, stop, [source]⟩ r := Range.before_iff.mpr hbefore
        refine h.cons ?_ (by simp) (by simp)
        exact List.forall_mem_cons.mpr ⟨hr, fun r' hr' => hr.trans (hhead r' hr')⟩
      · next hbefore =>
        split
        · refine h.tail.cons hhead ?_ (Ascending.pairwise_insert hasc)
          exact List.ne_nil_of_mem (Ascending.mem_insert_iff.mpr (Or.inl rfl))
        · next hsame =>
          refine (ih h.tail).cons ?_ hne hasc
          intro r' hr'
          rcases months_of_mem_addSource hr' with ⟨hstart, hstop⟩ | ⟨r'', hr'', hstart, hstop⟩
          · exact (Range.before_of_not [] hbefore hsame).of_months hstart hstop
          · exact (hhead r'' hr'').of_months hstart hstop

/-- **Run.** The ranges of a list of intervals are in normal form. -/
theorem normal_ranges (intervals : List Interval) : Normal (ranges intervals) := by
  suffices h : ∀ rs, Normal rs → Normal (intervals.foldl addInterval rs) from
    h [] ⟨List.Pairwise.nil, by simp, by simp⟩
  induction intervals with
  | nil => exact fun rs h => h
  | cons i intervals ih =>
      intro rs h
      refine ih _ ?_
      rw [addInterval]
      split
      · exact h.addSource
      · exact h

/-- In a normal form, months determine the range. -/
theorem Normal.eq_of_months {rs : List Range} (h : Normal rs) {r r' : Range} (hr : r ∈ rs)
    (hr' : r' ∈ rs) (hstart : r.start = r'.start) (hstop : r.stop = r'.stop) : r = r' := by
  have hnot : ∀ {r₁ r₂ : Range}, r₁.start = r₂.start → r₁.stop = r₂.stop → ¬r₁.Before r₂ := by
    intro r₁ r₂ h₁ h₂ hb
    have hself := hb.of_months h₁ h₂
    exact hself.asymm hself
  exact Ascending.eq_of_not_rel h.ascending hr hr' (hnot hstart hstop)
    (hnot hstart.symm hstop.symm)

/-- **The ranges of a list of intervals** are those with at least one source and, in ascending
order, exactly the sources whose intervals span their months. -/
theorem mem_ranges_iff {intervals : List Interval} {r : Range} :
    r ∈ ranges intervals ↔ r.sources ≠ [] ∧ r.sources.Pairwise (· < ·) ∧
      ∀ x, x ∈ r.sources ↔ ∃ i ∈ intervals, i.source = x ∧ i.span = .ok (r.start, r.stop) := by
  have hnormal := normal_ranges intervals
  have hsources : ∀ r' ∈ ranges intervals, ∀ x, x ∈ r'.sources ↔
      ∃ i ∈ intervals, i.source = x ∧ i.span = .ok (r'.start, r'.stop) := by
    intro r' hr' x
    rw [← declares_ranges]
    constructor
    · exact fun hx => ⟨r', hr', rfl, rfl, hx⟩
    · rintro ⟨r'', hr'', hstart, hstop, hx⟩
      rwa [hnormal.eq_of_months hr'' hr' hstart hstop] at hx
  constructor
  · intro hr
    exact ⟨hnormal.sources_ne_nil r hr, hnormal.sources_ascending r hr, hsources r hr⟩
  · rintro ⟨hne, hasc, hmem⟩
    obtain ⟨x, hx⟩ := List.exists_mem_of_ne_nil _ hne
    obtain ⟨r', hr', hstart, hstop, -⟩ := declares_ranges.mpr ((hmem x).mp hx)
    have hsame : r'.sources = r.sources := by
      refine Ascending.eq_of_pairwise_lt (hnormal.sources_ascending r' hr') hasc ?_
      intro y
      rw [hsources r' hr', hmem, hstart, hstop]
    obtain ⟨a, b, sources⟩ := r'
    obtain rfl : a = r.start := hstart
    obtain rfl : b = r.stop := hstop
    obtain rfl : sources = r.sources := hsame
    exact hr'

/-- The ranges depend only on which intervals there are. -/
theorem ranges_congr {intervals others : List Interval} (h : ∀ i, i ∈ others ↔ i ∈ intervals) :
    ranges others = ranges intervals := by
  refine Ascending.eq_of_mem_iff (fun _ _ hab => hab.asymm) (normal_ranges others).ascending
    (normal_ranges intervals).ascending ?_
  intro r
  simp only [mem_ranges_iff, h]

/-! ### The table over days -/

/-- Is there a range from the day `s` to the day `e` with exactly these sources in the list? -/
def Holds (rs : List Range) (s e : Day) (sources : Finset String) : Prop :=
  ∃ r ∈ rs, r.firstDay = s ∧ r.lastDay = e ∧ r.sources.toFinset = sources

/-- Is there such a range in the table? -/
def Table.Holds (table : Table) (s e : Day) (sources : Finset String) : Prop :=
  Gap.Holds table.universal s e sources ∨ Gap.Holds table.sourceOnly s e sources

/-- The ranges over days: those that some source spans, each with all sources that span it. -/
theorem holds_ranges_iff {intervals : List Interval} {s e : Day} {sources : Finset String} :
    Holds (ranges intervals) s e sources ↔
      sources.Nonempty ∧ ∀ x, x ∈ sources ↔ ∃ i ∈ intervals, i.source = x ∧ i.Spans s e := by
  constructor
  · rintro ⟨r, hr, rfl, rfl, rfl⟩
    obtain ⟨hne, -, hmem⟩ := mem_ranges_iff.mp hr
    refine ⟨List.toFinset_nonempty_iff _ |>.mpr hne, ?_⟩
    intro x
    simp only [List.mem_toFinset, hmem, Range.firstDay, Range.lastDay,
      Interval.spans_first_last_iff]
  · rintro ⟨⟨x, hx⟩, hmem⟩
    obtain ⟨i, -, -, hspans⟩ := (hmem x).mp hx
    obtain ⟨a, b, rfl, rfl⟩ := hspans.eq_first_last
    have hsources : ∀ y, y ∈ Ascending.ofList sources.toList ↔ y ∈ sources := by
      intro y
      rw [Ascending.mem_ofList_iff, Finset.mem_toList]
    refine ⟨⟨a, b, Ascending.ofList sources.toList⟩, ?_, rfl, rfl, ?_⟩
    · refine mem_ranges_iff.mpr ⟨List.ne_nil_of_mem ((hsources x).mpr hx),
        Ascending.pairwise_ofList _, ?_⟩
      intro y
      simp only [hsources, hmem, Interval.spans_first_last_iff]
    · ext y
      rw [List.mem_toFinset, hsources]

/-- A range of a list of intervals is universal exactly when it has two different sources. -/
theorem isUniversal_iff {intervals : List Interval} {r : Range} (hr : r ∈ ranges intervals) :
    r.isUniversal = true ↔ 2 ≤ r.sources.toFinset.card := by
  have hasc := (normal_ranges intervals).sources_ascending r hr
  have hnodup : r.sources.Nodup := by
    refine hasc.imp ?_
    rintro a b hab rfl
    exact Std.lt_irrefl hab
  rw [Range.isUniversal, decide_eq_true_eq, List.toFinset_card_of_nodup hnodup]

/-- The universal ranges are those with two different sources. -/
theorem holds_universal_iff {intervals : List Interval} {s e : Day} {sources : Finset String} :
    Holds (Table.ofIntervals intervals).universal s e sources ↔
      Holds (ranges intervals) s e sources ∧ 2 ≤ sources.card := by
  constructor
  · rintro ⟨r, hr, hs, he, rfl⟩
    obtain ⟨hmem, huniv⟩ := List.mem_filter.mp hr
    exact ⟨⟨r, hmem, hs, he, rfl⟩, (isUniversal_iff hmem).mp huniv⟩
  · rintro ⟨⟨r, hmem, hs, he, rfl⟩, hcard⟩
    exact ⟨r, List.mem_filter.mpr ⟨hmem, (isUniversal_iff hmem).mpr hcard⟩, hs, he, rfl⟩

/-- The other ranges are those with a single source. -/
theorem holds_sourceOnly_iff {intervals : List Interval} {s e : Day} {sources : Finset String} :
    Holds (Table.ofIntervals intervals).sourceOnly s e sources ↔
      Holds (ranges intervals) s e sources ∧ ¬2 ≤ sources.card := by
  constructor
  · rintro ⟨r, hr, hs, he, rfl⟩
    obtain ⟨hmem, huniv⟩ := List.mem_filter.mp hr
    refine ⟨⟨r, hmem, hs, he, rfl⟩, ?_⟩
    rw [← isUniversal_iff hmem]
    simpa using huniv
  · rintro ⟨⟨r, hmem, hs, he, rfl⟩, hcard⟩
    rw [← isUniversal_iff hmem] at hcard
    exact ⟨r, List.mem_filter.mpr ⟨hmem, by simpa using hcard⟩, hs, he, rfl⟩

/-- The table holds what the list of ranges holds. -/
theorem table_holds_iff {intervals : List Interval} {s e : Day} {sources : Finset String} :
    (Table.ofIntervals intervals).Holds s e sources ↔ Holds (ranges intervals) s e sources := by
  rw [Table.Holds, holds_universal_iff, holds_sourceOnly_iff, ← and_or_left]
  exact and_iff_left (Classical.em _)

/-- **The table is exactly the merged intervals.** It holds a range from `s` to `e` with the
sources `sources` exactly when these are all the sources whose intervals run from `s` to `e`, and
there is one; it is universal with two different sources, and in the other list with one, never in
both. Each list strictly ascends by the first and the last day, the label depends only on these two
days, and the table depends only on which intervals there are. -/
theorem Table.ofIntervals_merges (intervals : List Interval) :
    (∀ s e sources, (Table.ofIntervals intervals).Holds s e sources ↔
      sources.Nonempty ∧ ∀ x, x ∈ sources ↔ ∃ i ∈ intervals, i.source = x ∧ i.Spans s e) ∧
    (∀ s e sources, Gap.Holds (Table.ofIntervals intervals).universal s e sources ↔
      (Table.ofIntervals intervals).Holds s e sources ∧ 2 ≤ sources.card) ∧
    (∀ s e sources, Gap.Holds (Table.ofIntervals intervals).sourceOnly s e sources ↔
      (Table.ofIntervals intervals).Holds s e sources ∧ ¬2 ≤ sources.card) ∧
    (∀ s e sources, ¬(Gap.Holds (Table.ofIntervals intervals).universal s e sources ∧
      Gap.Holds (Table.ofIntervals intervals).sourceOnly s e sources)) ∧
    (Table.ofIntervals intervals).universal.Pairwise Range.Before ∧
    (Table.ofIntervals intervals).sourceOnly.Pairwise Range.Before ∧
    (∀ r r' : Range, r.firstDay = r'.firstDay → r.lastDay = r'.lastDay → r.label = r'.label) ∧
    (∀ others : List Interval, (∀ i, i ∈ others ↔ i ∈ intervals) →
      Table.ofIntervals others = Table.ofIntervals intervals) := by
  have hasc := (normal_ranges intervals).ascending
  refine ⟨?_, ?_, ?_, ?_, hasc.filter _, hasc.filter _, ?_, ?_⟩
  · intro s e sources
    rw [table_holds_iff, holds_ranges_iff]
  · intro s e sources
    rw [table_holds_iff, holds_universal_iff]
  · intro s e sources
    rw [table_holds_iff, holds_sourceOnly_iff]
  · rintro s e sources ⟨huniv, honly⟩
    exact (holds_sourceOnly_iff.mp honly).2 (holds_universal_iff.mp huniv).2
  · intro r r' hfirst hlast
    rw [Range.label, Range.label, Range.firstDay_eq_iff.mp hfirst, Range.lastDay_eq_iff.mp hlast]
  · intro others h
    rw [Table.ofIntervals, Table.ofIntervals, ranges_congr h]

end PageLint.Gap
