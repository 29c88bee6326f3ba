import PageLint.PageRule
import PageLint.Proofs.AttributeGrammar
import PageLint.Proofs.BuiltinCheckers

/-!
# Area charts over time

An area chart over time with several series has to say what to do about missing values. Whether a
chart is over time can be read off its `x` in two ways. `Page.timeSeries` takes the value without its
quotes and braces (`Tag.bare?`). The rule takes the value as it is written and only if it is a plain
word (`Tag.word?`). A plain word is its own value without wrapping, so the rule finds only charts over
time, but not those that write the axis in quotes or braces.

## Main results

* `Tag.bare?_of_word?`: a plain word is read in both ways alike.
* `Checker.missingValueErrors_exact`: **the errors about missing values**, and when no chart over time
  is left out.
-/

namespace PageLint

/-! ### Plain words -/

/-- The code points of blanks are those of no letter and no number. -/
theorem spaceCodePoints_not_alphanumeric :
    ∀ n ∈ spaceCodePoints, CharRanges.holds n CharRanges.alphanumericRanges = false := by
  decide +kernel

/-- No letter or number is blank. -/
theorem not_isSpace_of_isAlphanumeric {c : Char} (h : isAlphanumeric c = true) :
    isSpace c = false := by
  cases hspace : isSpace c with
  | false => rfl
  | true =>
      have hnot := spaceCodePoints_not_alphanumeric _ (mem_spaceCodePoints hspace)
      rw [isAlphanumeric, hnot] at h
      cases h

/-- A character of plain words: a letter or number of any script, or an underscore. -/
def IsPlainChar (c : Char) : Prop := isAlphanumeric c = true ∨ c = '_'

/-- Characters of plain words are not blank. -/
theorem IsPlainChar.not_isSpace {c : Char} (h : IsPlainChar c) : isSpace c = false := by
  rcases h with h | rfl
  · exact not_isSpace_of_isAlphanumeric h
  · decide

/-- Values are wrapped in other characters than those of plain words. -/
theorem IsPlainChar.ne {c d : Char} (h : IsPlainChar c) (hd : d = '{' ∨ d = '\'' ∨ d = '"') :
    c ≠ d := by
  rintro rfl
  rcases h with h | rfl
  · rcases hd with rfl | rfl | rfl <;> exact absurd h (by decide +kernel)
  · revert hd
    decide

/-- Is the text a plain word? -/
def Text.IsPlainWord (t : Text) : Prop := t ≠ [] ∧ ∀ c ∈ t, IsPlainChar c

/-- A plain word has no wrapping to take off. -/
theorem Attributes.bareValue_of_isPlainWord {v : Text} (h : v.IsPlainWord) : bareValue v = v := by
  obtain ⟨-, hplain⟩ := h
  have hhead : ∀ c, v.head? = some c → IsPlainChar c := fun c hc =>
    hplain c (List.mem_of_mem_head? hc)
  have hbare : IsBare v := isBare_of_forall (fun c hc => (hplain c hc).not_isSpace) fun c hc hq =>
    (hhead c hc).ne (.inr hq) rfl
  have hbraces : ∀ inner, v ≠ braced inner := by
    rintro inner rfl
    exact (hhead '{' rfl).ne (.inl rfl) rfl
  exact (Spells.bare hbare hbraces (.refl v)).bareValue_eq

/-! ### Tags -/

namespace Tag

variable {tag : Tag} {key : String}

/-- The values that are taken as they are written are the plain words. -/
theorem word?_eq_some_iff {w : Text} :
    tag.word? key = some w ↔ tag.get? key = some w ∧ w.IsPlainWord := by
  simp [word?, Option.filter_eq_some_iff, Text.IsPlainWord, IsPlainChar]

/-- **A plain word is read in both ways alike.** -/
theorem bare?_of_word? {w : Text} (h : tag.word? key = some w) : tag.bare? key = some w := by
  obtain ⟨hget, hplain⟩ := word?_eq_some_iff.mp h
  have hbare : tag.bare? key = (tag.get? key).map Attributes.bareValue := rfl
  rw [hbare, hget, Option.map_some, Attributes.bareValue_of_isPlainWord hplain]

/-- Is the value of the attribute written as a plain word, without quotes or braces? -/
def WritesWord (tag : Tag) (key : String) : Prop := ∃ w, tag.get? key = some w ∧ w.IsPlainWord

/-- An attribute is read as a plain word exactly if it is written as one. -/
theorem isSome_word?_iff : (tag.word? key).isSome = true ↔ tag.WritesWord key := by
  simp only [Option.isSome_iff_exists, word?_eq_some_iff, WritesWord]

instance (tag : Tag) (key : String) : Decidable (tag.WritesWord key) :=
  decidable_of_iff ((tag.word? key).isSome = true) isSome_word?_iff

/-- A value is a given plain word when it is written as one and has that value. -/
theorem word?_eq_iff {w : Text} :
    tag.word? key = some w ↔ tag.bare? key = some w ∧ tag.WritesWord key := by
  constructor
  · intro h
    exact ⟨bare?_of_word? h, isSome_word?_iff.mp (h ▸ rfl)⟩
  · rintro ⟨hbare, hwrites⟩
    obtain ⟨v, hv⟩ := Option.isSome_iff_exists.mp (isSome_word?_iff.mpr hwrites)
    rwa [hv, ← bare?_of_word? hv]

/-- Is the tag one of an area chart with several series that does not say what to do about missing
values? -/
def LeavesGaps (tag : Tag) : Prop :=
  tag.kind = .areaChart ∧ (tag.has "series" = true ∨ tag.hasSeveralY = true) ∧
    tag.has "handleMissing" = false

instance : DecidablePred LeavesGaps := fun tag =>
  inferInstanceAs (Decidable (tag.kind = .areaChart ∧
    (tag.has "series" = true ∨ tag.hasSeveralY = true) ∧ tag.has "handleMissing" = false))

end Tag

/-! ### The rule -/

namespace Rule

/-- The error about an area chart over time. -/
def missingValues (axis : String) (tag : Tag) : Notice :=
  .error "AREACHART_MISSING" ("<AreaChart " ++ quotedTitle tag ++ "> is multi-series on " ++ axis ++
    " but missing handleMissing=gap; the default fills data gaps with false zeroes. Add handleMissing=gap so gaps render as breaks.")

/-- The rule finds the area charts over time that write the axis as a plain word. -/
theorem areaGaps_eq (tables : RuleTables) (page : Page) :
    areaGaps tables page =
      (((page.timeSeries tables.dateAxis).filter (·.LeavesGaps)).filter (·.WritesWord "x")).map
        (missingValues tables.dateAxis) := by
  rw [areaGaps, Page.tagsOf, Page.timeSeries, Page.charts]
  simp only [List.filter_filter]
  congr 1
  refine List.filter_congr fun tag _ => ?_
  rw [Bool.eq_iff_iff]
  simp only [Bool.and_eq_true, Bool.or_eq_true, Bool.not_eq_true', beq_iff_eq, decide_eq_true_eq,
    Tag.word?_eq_iff]
  constructor
  · rintro ⟨⟨⟨⟨hbare, hwrites⟩, hseveral⟩, hmissing⟩, hkind⟩
    exact ⟨hwrites, ⟨hkind, hseveral.symm, hmissing⟩, hbare, hkind ▸ rfl⟩
  · rintro ⟨hwrites, ⟨hkind, hseveral, hmissing⟩, hbare, -⟩
    exact ⟨⟨⟨⟨hbare, hwrites⟩, hseveral.symm⟩, hmissing⟩, hkind⟩

/-- Is the notice an error about missing values? -/
def isMissingValues (n : Notice) : Bool := n.severity == .error && n.rule == "AREACHART_MISSING"

/-- Only one of the checks of charts gives errors. -/
theorem filter_affordances (checker : Checker) (page : Page) :
    (affordances checker page).filter isMissingValues = areaGaps checker.tables page := by
  have hwarn : ∀ rule message, isMissingValues (.warn rule message) = false := fun _ _ => rfl
  have hyears : (yearFormats checker.tables page).filter isMissingValues = [] := by
    refine List.filter_eq_nil_iff.mpr fun n hn => ?_
    obtain ⟨tag, -, htag⟩ := List.mem_filterMap.mp hn
    split at htag
    · split at htag
      · rw [← Option.some.inj htag, hwarn]
        exact Bool.false_ne_true
      · cases htag
    · cases htag
  have htypes : (barTypes page).filter isMissingValues = [] := by
    refine List.filter_eq_nil_iff.mpr fun n hn => ?_
    obtain ⟨tag, -, rfl⟩ := List.mem_map.mp hn
    exact Bool.false_ne_true
  have hareas : (areaGaps checker.tables page).filter isMissingValues =
      areaGaps checker.tables page := by
    refine List.filter_eq_self.mpr fun n hn => ?_
    obtain ⟨tag, -, rfl⟩ := List.mem_map.mp hn
    rfl
  have hzero : (zeroLine checker.tables page).filter isMissingValues = [] := by
    rw [zeroLine]
    split
    · rfl
    · split <;> rfl
  have hmarkers : (markerLines checker page).filter isMissingValues = [] := by
    refine List.filter_eq_nil_iff.mpr fun n hn => ?_
    obtain ⟨⟨marker, pattern⟩, -, hmarker⟩ := List.mem_filterMap.mp hn
    simp only at hmarker
    split at hmarker
    · cases hmarker
    · rw [← Option.some.inj hmarker, hwarn]
      exact Bool.false_ne_true
  simp only [affordances, List.filter_append, hyears, htypes, hareas, hzero, hmarkers,
    List.nil_append, List.append_nil]

end Rule

/-- All members of a list are kept by a filter when none is lost from its image. -/
theorem map_filter_eq_map_iff {α β : Type} {f : α → β} {p : α → Bool} {l : List α} :
    (l.filter p).map f = l.map f ↔ ∀ a ∈ l, p a = true := by
  constructor
  · intro h
    have hlength := congrArg List.length h
    rw [List.length_map, List.length_map] at hlength
    exact List.length_filter_eq_length_iff.mp hlength
  · intro h
    rw [List.filter_eq_self.mpr h]

namespace Checker

/-- **The errors about missing values.** Among the charts over time, those that are area charts with
several series and do not say what to do about missing values are to be reported. Of these the rule
reports, one error each and in the order of the tags, the ones that write their `x` as a plain word.
So all are reported exactly if none of them writes it in another way. -/
theorem missingValueErrors_exact (checker : Checker) (page : Page) :
    let axis := checker.tables.dateAxis
    let errors := (checker.findingsOf .affordances page).filter fun f =>
      f.severity == .error && f.rule == "AREACHART_MISSING"
    let due := (page.timeSeries axis).filter (·.LeavesGaps)
    let report (tag : Tag) : Finding := (Rule.missingValues axis tag).inFile page.path
    errors = (due.filter (·.WritesWord "x")).map report ∧
      (errors = due.map report ↔ ∀ tag ∈ due, tag.WritesWord "x") := by
  intro axis errors due report
  have herrors : errors = (due.filter (·.WritesWord "x")).map report := by
    have hnotices := Rule.filter_affordances checker page
    rw [Rule.areaGaps_eq] at hnotices
    rw [show report = (·.inFile page.path) ∘ Rule.missingValues axis from rfl, ← List.map_map,
      ← hnotices]
    exact List.filter_map
  refine ⟨herrors, ?_⟩
  rw [herrors, map_filter_eq_map_iff]
  simp only [decide_eq_true_eq]

/-- An area chart that writes the axis in quotes is a chart over time with several series, and nothing
is said about its missing values. -/
theorem missingValueErrors_quotedAxis :
    let page : Page := ⟨"p.md", "<AreaChart data=\x7bq\x7d x='date_parsed' series=mode title=\"Trips\"/>".toList⟩
    ∃ tag, page.timeSeries plain.tables.dateAxis = [tag] ∧ tag.LeavesGaps ∧
      (plain.findingsOf .affordances page).filter (fun f =>
        f.severity == .error && f.rule == "AREACHART_MISSING") = [] := by
  intro page
  have hone : (page.timeSeries plain.tables.dateAxis).length = 1 := by decide +kernel
  obtain ⟨tag, htag⟩ := List.length_eq_one_iff.mp hone
  refine ⟨tag, htag, ?_, ?_⟩
  · have hall : ∀ tag ∈ page.timeSeries plain.tables.dateAxis, tag.LeavesGaps := by decide +kernel
    exact hall tag (htag ▸ List.mem_cons_self)
  · decide +kernel

end Checker

end PageLint
