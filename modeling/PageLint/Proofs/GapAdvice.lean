import PageLint.PageRule
import PageLint.Proofs.AttributeGrammar
import PageLint.Proofs.BuiltinCheckers
import PageLint.Proofs.Newlines
import PageLint.Proofs.QueryGrammar
import PageLint.Proofs.TagGrammar
import PageLint.Proofs.WrittenMonths

/-!
# Following the advice about gaps

A page that charts primary data over time is told the bounds of the gaps that it does not annotate.
Here the advice is followed: an annotation for every gap is written behind the page
(`Gap.Table.annotations`), and the page is read again.

The annotations hold neither a backtick nor a carriage return, and the page leaves no tag open. So
nothing changes in what stood there before (`Page.tags_annotated`, `Page.queries_annotated`), and of
the annotations exactly the bounds are read that were written (`Gap.tags_annotations`).

## Main results

* `Page.tags_annotated`: the tags of a page that is continued by annotations.
* `Rule.unannotatedGaps_eq_nil`: no gap lacks an annotation when all bounds are annotated.
* `Checker.gapFindings_annotated`: **the advice closes the gaps** — of the findings about gaps only
  those about line charts that cannot hold an annotation are left.
-/

namespace PageLint

/-! ### Days as they are written -/

/-- The characters of a day: digits and hyphens. -/
def IsIsoChar (c : Char) : Prop := c.isDigit = true ∨ c = '-'

instance : DecidablePred IsIsoChar := fun c =>
  inferInstanceAs (Decidable (c.isDigit = true ∨ c = '-'))

/-- A day is written in digits and hyphens. -/
theorem Month.isIsoChar_of_mem_iso {m : Month} {day : Nat} {c : Char}
    (h : c ∈ (m.iso day).toList) : IsIsoChar c := by
  simp only [iso, String.toList_append, List.mem_append] at h
  rcases h with (((h | h) | h) | h) | h
  · exact Or.inl (isDigit_of_mem_padded h)
  · exact Or.inr (List.mem_singleton.mp h)
  · exact Or.inl (isDigit_of_mem_padded h)
  · exact Or.inr (List.mem_singleton.mp h)
  · exact Or.inl (isDigit_of_mem_padded h)

/-! ### Annotations -/

namespace Gap

/-- The attributes of the annotation of a gap. -/
def Range.bounds (r : Range) : Text :=
  (" xMin='" ++ r.startIso ++ "' xMax='" ++ r.stopIso ++ "'").toList

/-- The tag that annotates a gap. -/
def Range.areaTag (r : Range) : Text :=
  '<' :: (ComponentKind.referenceArea.name.toList ++ (r.bounds ++ ['/'] ++ ['>']))

/-- The line that annotates a gap. -/
def Range.areaLine (r : Range) : Text :=
  ("<ReferenceArea xMin='" ++ r.startIso ++ "' xMax='" ++ r.stopIso ++ "'/>\n").toList

/-- The annotations of all gaps, line by line. -/
def Table.annotations (t : Table) : Text := (t.universal ++ t.sourceOnly).flatMap Range.areaLine

/-- A text with the annotations of all gaps behind it, after some line feeds. -/
def Table.annotate (t : Table) (text : Text) (breaks : Nat) : Text :=
  text ++ (List.replicate breaks '\n' ++ t.annotations)

/-- The line of an annotation is its tag and a line feed. -/
theorem Range.areaLine_eq (r : Range) : r.areaLine = r.areaTag ++ ['\n'] := by
  simp [areaLine, areaTag, bounds, ComponentKind.name]

/-- Other characters than those of days and of the text around them are not in an annotation. -/
theorem Range.notMem_areaLine {r : Range} {c : Char} (hday : ¬IsIsoChar c)
    (htext : c ∉ "<ReferenceArea xMin='".toList ++ "' xMax='".toList ++ "'/>\n".toList) :
    c ∉ r.areaLine := by
  simp only [List.mem_append, not_or] at htext
  simp only [areaLine, String.toList_append, List.mem_append, not_or]
  obtain ⟨⟨hopen, hmiddle⟩, hclose⟩ := htext
  exact ⟨⟨⟨⟨hopen, mt Month.isIsoChar_of_mem_iso hday⟩, hmiddle⟩,
    mt Month.isIsoChar_of_mem_iso hday⟩, hclose⟩

/-- Characters that are in no annotation are not in their lines. -/
theorem Table.notMem_annotations {t : Table} {c : Char} (h : ∀ r : Range, c ∉ r.areaLine) :
    c ∉ t.annotations := by
  intro hmem
  obtain ⟨r, -, hr⟩ := List.mem_flatMap.mp hmem
  exact h r hr

/-- What is read of the attributes of an annotation. -/
theorem Range.readPairs_bounds (r : Range) :
    Attributes.readPairs r.bounds =
      [("xMin".toList, '\'' :: (r.startIso.toList ++ ['\''])),
       ("xMax".toList, '\'' :: (r.stopIso.toList ++ ['\'']))] := by
  have hquote : Attributes.IsQuote '\'' := Or.inl rfl
  have hstart : '\'' ∉ r.startIso.toList := mt Month.isIsoChar_of_mem_iso (by decide)
  have hstop : '\'' ∉ r.stopIso.toList := mt Month.isIsoChar_of_mem_iso (by decide)
  have hblank : ∀ t, Attributes.readPairs (' ' :: t) = Attributes.readPairs t :=
    Attributes.readPairs_skip (by decide) (by decide)
  have hform : r.bounds = ' ' :: ("xMin".toList ++ '=' :: '\'' :: (r.startIso.toList ++ '\'' ::
      ' ' :: ("xMax".toList ++ '=' :: '\'' :: (r.stopIso.toList ++ '\'' :: [])))) := by
    simp [bounds]
  have hmin : ∀ c ∈ "xMin".toList, Attributes.isNameChar c = true :=
    List.all_eq_true.mp (by decide)
  have hmax : ∀ c ∈ "xMax".toList, Attributes.isNameChar c = true :=
    List.all_eq_true.mp (by decide)
  rw [hform, hblank, Attributes.readPairs_quoted (by decide) hmin hquote hstart, hblank,
    Attributes.readPairs_quoted (by decide) hmax hquote hstop, Attributes.readPairs]

/-! ### Annotations as tags -/

/-- Where an annotation was read, the tag has the kind and the bounds that were written. -/
theorem Range.ofHit_areaTag (r : Range) (behind source ahead : Text) :
    let tag := Tag.ofHit ⟨behind, source, (.referenceArea, r.bounds ++ ['/']), ahead⟩
    tag.kind = .referenceArea ∧ tag.bare? "xMin" = some r.startIso.toList ∧
      tag.bare? "xMax" = some r.stopIso.toList := by
  intro tag
  have hraw : tag.raw = r.bounds := by
    simp only [tag, Tag.ofHit, Text.trimEnd_append_singleton (show isSpace '/' = false by decide)]
    simp
  have hattributes : tag.attributes.pairs = _ := (congrArg Attributes.readPairs hraw).trans
    r.readPairs_bounds
  have hquote : Attributes.IsQuote '\'' := Or.inl rfl
  refine ⟨rfl, ?_, ?_⟩
  · rw [Tag.bare?, Attributes.bare?, Attributes.get?, hattributes]
    simp [Attributes.bareValue_quoted hquote]
  · rw [Tag.bare?, Attributes.bare?, Attributes.get?, hattributes]
    simp [Attributes.bareValue_quoted hquote]

/-- An annotation at the head of a text is read. -/
theorem Range.reader_areaTag (r : Range) (before : Option Char) (t : Text) :
    Tag.reader before (r.areaTag ++ t) = some ((.referenceArea, r.bounds ++ ['/']), t) := by
  have hstart : '>' ∉ r.startIso.toList := mt Month.isIsoChar_of_mem_iso (by decide)
  have hstop : '>' ∉ r.stopIso.toList := mt Month.isIsoChar_of_mem_iso (by decide)
  have hblank : r.bounds =
      ' ' :: ("xMin='" ++ r.startIso ++ "' xMax='" ++ r.stopIso ++ "'").toList := by
    simp [bounds]
  refine Tag.reader_eq_some_iff.mpr ⟨by simp [areaTag], ?_, ?_⟩
  · simp [bounds, hstart, hstop]
  · intro c hc
    rw [hblank, List.cons_append] at hc
    obtain rfl := Option.some.inj hc
    decide +kernel

/-- The bounds that a tag of a shaded range gives, as the rule about gaps reads them. -/
def boundsOf (tag : Tag) : Text × Text :=
  ((tag.bare? "xMin").getD [], (tag.bare? "xMax").getD [])

/-- The tags in the annotations of some gaps are shaded ranges with the bounds of the gaps. -/
theorem tags_annotations (gaps : List Range) (behind : Text) :
    (∀ tag ∈ Tag.ofRest behind (gaps.flatMap Range.areaLine), tag.kind = .referenceArea) ∧
    (Tag.ofRest behind (gaps.flatMap Range.areaLine)).map boundsOf =
      gaps.map fun r => (r.startIso.toList, r.stopIso.toList) := by
  induction gaps generalizing behind with
  | nil => exact ⟨fun tag htag => absurd htag List.not_mem_nil, rfl⟩
  | cons r gaps ih =>
      have hne : r.areaTag ≠ [] := List.cons_ne_nil _ _
      rw [List.flatMap_cons, r.areaLine_eq, List.append_assoc, List.singleton_append,
        Tag.ofRest_tag hne (r.reader_areaTag _ _), Tag.ofRest_cons (by decide)]
      obtain ⟨hkinds, hbounds⟩ := ih ('\n' :: (r.areaTag.reverse ++ behind))
      refine ⟨?_, ?_⟩
      · intro tag htag
        rcases List.mem_cons.mp htag with rfl | htag
        · rfl
        · exact hkinds tag htag
      · obtain ⟨-, hmin, hmax⟩ := r.ofHit_areaTag behind r.areaTag
          ('\n' :: gaps.flatMap Range.areaLine)
        rw [List.map_cons, List.map_cons, hbounds, boundsOf, hmin, hmax]
        rfl

end Gap

/-! ### Pages with annotations behind them -/

namespace Page

/-- Line feeds and annotations hold no other characters than these. -/
theorem notMem_breaks_annotations (breaks : Nat) (gaps : Gap.Table) {c : Char} (hc : c ≠ '\n')
    (h : ∀ r : Gap.Range, c ∉ r.areaLine) :
    c ∉ List.replicate breaks '\n' ++ gaps.annotations := by
  rw [List.mem_append, not_or]
  exact ⟨fun hmem => hc (List.eq_of_mem_replicate hmem), gaps.notMem_annotations h⟩

/-- Unifying line ends leaves no tag open. -/
theorem endsClosed_normalizeNewlines {t : Text} (h : t.EndsClosed) :
    (normalizeNewlines t).EndsClosed := by
  refine Text.endsClosed_iff.mpr ?_
  intro before after ht
  obtain ⟨before', after', rfl, rfl⟩ := exists_of_normalizeNewlines_eq (by decide) ht
  exact mem_normalizeNewlines (by decide) (Text.endsClosed_iff.mp h before' after' rfl)

/-- The tags of a page that is continued without carriage returns are its own and those of the
continuation. -/
theorem tags_continued {t u : Text} (h : t.EndsClosed) (hu : '\r' ∉ u) :
    ∃ behind, Tag.ofText (normalizeNewlines (t ++ u)) =
      Tag.ofText (normalizeNewlines t) ++ Tag.ofRest behind u := by
  have hclosed := endsClosed_normalizeNewlines h
  rcases normalizeNewlines_append t hu with heq | ⟨body, hbody, heq⟩
  · exact ⟨_, heq ▸ Tag.ofText_append hclosed u⟩
  · have hclosed' : body.EndsClosed := by
      refine Text.endsClosed_iff.mpr ?_
      rintro before after rfl
      rw [hbody, List.append_assoc, List.cons_append] at hclosed
      simpa using Text.endsClosed_iff.mp hclosed before _ rfl
    refine ⟨body.reverse, ?_⟩
    have hreturn : Tag.ofRest body.reverse ['\r'] = [] := Tag.ofRest_cons (by decide) _ []
    rw [heq, hbody, Tag.ofText_append hclosed', Tag.ofText_append hclosed', hreturn,
      List.append_nil]

/-- The query blocks of a page that is continued without carriage returns and backticks are its
own. -/
theorem queries_continued (t : Text) {u : Text} (hu : '\r' ∉ u) (hu' : '`' ∉ u) :
    QueryBlock.ofText (normalizeNewlines (t ++ u)) = QueryBlock.ofText (normalizeNewlines t) := by
  rcases normalizeNewlines_append t hu with heq | ⟨body, hbody, heq⟩
  · rw [heq, QueryBlock.ofText_append _ hu']
  · rw [heq, hbody, QueryBlock.ofText_append _ hu', QueryBlock.ofText_append _ (by decide)]

/-- **The tags of a page with annotations behind it** are its own and those of the annotations. -/
theorem tags_annotated {t : Text} (h : t.EndsClosed) (breaks : Nat) (gaps : Gap.Table) :
    ∃ areas, Tag.ofText (normalizeNewlines (gaps.annotate t breaks)) =
        Tag.ofText (normalizeNewlines t) ++ areas ∧
      (∀ tag ∈ areas, tag.kind = .referenceArea) ∧
      areas.map Gap.boundsOf = (gaps.universal ++ gaps.sourceOnly).map fun r =>
        (r.startIso.toList, r.stopIso.toList) := by
  obtain ⟨behind, htags⟩ := tags_continued h (notMem_breaks_annotations breaks gaps (by decide)
    (fun r => r.notMem_areaLine (by decide) (by decide)))
  have hbreaks : '<' ∉ List.replicate breaks '\n' := fun hmem =>
    absurd (List.eq_of_mem_replicate hmem) (by decide)
  rw [Tag.ofRest_append hbreaks] at htags
  obtain ⟨hkinds, hbounds⟩ := Gap.tags_annotations (gaps.universal ++ gaps.sourceOnly) _
  exact ⟨_, htags, hkinds, hbounds⟩

/-- Shaded ranges are no charts over time. -/
theorem timeSeries_eq_of_tags {page page' : Page} {areas : List Tag}
    (htags : page'.tags = page.tags ++ areas) (hkinds : ∀ tag ∈ areas, tag.kind = .referenceArea)
    (axis : String) : page'.timeSeries axis = page.timeSeries axis := by
  have hnone : areas.filter (·.kind.isChart) = [] := by
    refine List.filter_eq_nil_iff.mpr ?_
    intro tag htag
    rw [hkinds tag htag]
    decide
  rw [timeSeries, timeSeries, charts, charts, htags, List.filter_append, hnone, List.append_nil]

/-- The query blocks of a page with annotations behind it are its own. -/
theorem queries_annotated (t : Text) (breaks : Nat) (gaps : Gap.Table) :
    QueryBlock.ofText (normalizeNewlines (gaps.annotate t breaks)) =
      QueryBlock.ofText (normalizeNewlines t) := by
  refine queries_continued t (notMem_breaks_annotations breaks gaps (by decide) ?_)
    (notMem_breaks_annotations breaks gaps (by decide) ?_)
  · exact fun r => r.notMem_areaLine (by decide) (by decide)
  · exact fun r => r.notMem_areaLine (by decide) (by decide)

end Page

/-! ### The rule about gaps -/

namespace Rule

/-- No gap lacks an annotation when the bounds of all gaps are annotated. -/
theorem unannotatedGaps_eq_nil {checker : Checker} {page : Page}
    (h : ∀ gap ∈ checker.gaps.universal ++ checker.gaps.sourceOnly,
      (gap.startIso.toList, gap.stopIso.toList) ∈ annotatedBounds page) :
    unannotatedGaps checker page = [] := by
  have hannotated : ∀ gap ∈ checker.gaps.universal ++ checker.gaps.sourceOnly,
      isAnnotated (annotatedBounds page) gap = true := fun gap hgap =>
    List.contains_iff_mem.mpr (h gap hgap)
  rw [unannotatedGaps]
  cases hareas : annotatedBounds page with
  | nil =>
      have hnone : checker.gaps.universal = [] := by
        refine List.eq_nil_iff_forall_not_mem.mpr ?_
        intro gap hgap
        exact absurd (hareas ▸ h gap (List.mem_append_left _ hgap)) List.not_mem_nil
      simp [hnone]
  | cons area areas =>
      rw [hareas] at hannotated
      have huniversal : checker.gaps.universal.filter (!isAnnotated (area :: areas) ·) = [] := by
        refine List.filter_eq_nil_iff.mpr ?_
        intro gap hgap
        simp [hannotated gap (List.mem_append_left _ hgap)]
      simp only [List.isEmpty_cons, Bool.false_eq_true, if_false, huniversal, List.map_nil,
        List.nil_append]
      refine List.filterMap_eq_nil_iff.mpr ?_
      intro gap hgap
      rw [hannotated gap (List.mem_append_right _ hgap)]
      cases queriedSources checker page.sql gap with
      | nil => rfl
      | cons _ _ => rfl

/-- Every notice about gaps carries the identifier of the rule. -/
theorem rule_of_mem_gapAnnotations {checker : Checker} {page : Page} {n : Notice}
    (h : n ∈ gapAnnotations checker page) : n.rule = "COMPONENT_GAPS" := by
  rw [gapAnnotations] at h
  split at h
  · rcases List.mem_append.mp h with h | h
    · simp only [unannotatedGaps] at h
      split at h
      · split at h
        · exact absurd h List.not_mem_nil
        · rw [List.mem_singleton.mp h]
          rfl
      · rcases List.mem_append.mp h with h | h
        · obtain ⟨gap, -, rfl⟩ := List.mem_map.mp h
          rfl
        · obtain ⟨gap, -, hgap⟩ := List.mem_filterMap.mp h
          split at hgap
          · cases hgap
          · split at hgap
            · cases hgap
            · rw [← Option.some.inj hgap]
              rfl
    · obtain ⟨tag, -, rfl⟩ := List.mem_map.mp h
      rfl
  · exact absurd h List.not_mem_nil

/-- The notices about gaps are those of this rule that carry its identifier. -/
theorem filter_components (checker : Checker) (page : Page) :
    (components checker page).filter (·.rule == "COMPONENT_GAPS") =
      gapAnnotations checker page := by
  have hformat : ∀ text part fix,
      (badFormat text part fix).filter (·.rule == "COMPONENT_GAPS") = [] := by
    intro text part fix
    rw [badFormat]
    split
    · rfl
    · rfl
  have hscale : (if page.text.has "scaleColor=" then
      [Notice.warn "COMPONENT_DEPRECATED" "scaleColor= is deprecated; use colorScale="] else
      []).filter (·.rule == "COMPONENT_GAPS") = [] := by
    split
    · rfl
    · rfl
  have hlinked : (linkedCharts checker page).filter (·.rule == "COMPONENT_GAPS") = [] := by
    simp only [linkedCharts]
    split
    · rfl
    · rfl
  have hgaps : (gapAnnotations checker page).filter (·.rule == "COMPONENT_GAPS") =
      gapAnnotations checker page := by
    refine List.filter_eq_self.mpr ?_
    intro n hn
    exact beq_iff_eq.mpr (rule_of_mem_gapAnnotations hn)
  rw [components, List.filter_append, List.filter_append, List.filter_append, List.filter_append,
    hformat, hformat, hscale, hlinked, hgaps]
  rfl

end Rule

namespace Checker

/-- **Following the advice closes the gaps.** Let a page leave no tag open, and write an annotation
for every gap behind it, each on a line. In the page as `Checker.checkPage` reads it, the rule about
gaps finds nothing then but the line charts over time that close themselves, each once and only when
the page queries a primary table. The query blocks of the page and their SQL are as before. -/
theorem gapFindings_annotated (checker : Checker) (path : String) {text : Text}
    (h : text.EndsClosed) (breaks : Nat) :
    let page : Page := ⟨path, Page.normalizeNewlines text⟩
    let page' : Page := ⟨path, Page.normalizeNewlines (checker.gaps.annotate text breaks)⟩
    let axis := checker.tables.dateAxis
    (checker.findingsOf .components page').filter (·.rule == "COMPONENT_GAPS") =
      (if checker.queriesPrimary page.sql then
        ((page.timeSeries axis).filter fun t => t.kind == .lineChart && t.selfClosing).map fun t =>
          (Notice.warn "COMPONENT_GAPS" ("Self-closing LineChart '" ++ t.title.str ++ "' uses " ++
            axis ++ " but cannot contain <ReferenceArea> children; convert it to an open/close tag and add gap annotations")).inFile path
      else []) ∧
    page'.queries = page.queries ∧ page'.sql = page.sql := by
  intro page page' axis
  obtain ⟨areas, hareas, hkinds, hbounds⟩ := Page.tags_annotated h breaks checker.gaps
  have htags : page'.tags = page.tags ++ areas := hareas
  have hqueries : page'.queries = page.queries := Page.queries_annotated text breaks checker.gaps
  have hsql : page'.sql = page.sql := by rw [Page.sql, Page.sql, hqueries]
  have hseries : page'.timeSeries axis = page.timeSeries axis :=
    Page.timeSeries_eq_of_tags htags hkinds axis
  have hannotated : Rule.unannotatedGaps checker page' = [] := by
    refine Rule.unannotatedGaps_eq_nil ?_
    intro gap hgap
    have hmem : (gap.startIso.toList, gap.stopIso.toList) ∈ areas.map Gap.boundsOf :=
      hbounds ▸ List.mem_map.mpr ⟨gap, hgap, rfl⟩
    obtain ⟨tag, htag, heq⟩ := List.mem_map.mp hmem
    refine List.mem_map.mpr ⟨tag, List.mem_filter.mpr ⟨?_, ?_⟩, heq⟩
    · exact htags ▸ List.mem_append_right _ htag
    · rw [hkinds tag htag]
      rfl
  refine ⟨?_, hqueries, hsql⟩
  have hfindings : (checker.findingsOf .components page').filter (·.rule == "COMPONENT_GAPS") =
      (Rule.gapAnnotations checker page').map (·.inFile path) := by
    rw [findingsOf, List.filter_map, ← Rule.filter_components]
    rfl
  rw [hfindings, Rule.gapAnnotations, hannotated, hsql, hseries, Rule.closedTimeSeries, hseries]
  cases page.timeSeries axis with
  | nil => simp
  | cons tag tags =>
      cases checker.queriesPrimary page.sql with
      | false => rfl
      | true =>
          rw [List.nil_append]
          exact List.map_map

/-- A page over primary data with one chart, which closes itself: with the annotations of all
built-in gaps behind it, the chart is all that is left to say about gaps. -/
theorem gapFindings_annotated_builtin :
    let text : Text :=
      "```sql fleet\nFROM extracted\n```\n<LineChart title='Fleet' x=date_parsed/>\n".toList
    let page : Page := ⟨"fleet.md", Page.normalizeNewlines (unmarked.gaps.annotate text 0)⟩
    text.EndsClosed ∧
      (unmarked.findingsOf .components page).filter (·.rule == "COMPONENT_GAPS") =
        [(Notice.warn "COMPONENT_GAPS" "Self-closing LineChart 'Fleet' uses date_parsed but cannot contain <ReferenceArea> children; convert it to an open/close tag and add gap annotations").inFile "fleet.md"] := by
  intro text page
  have hclosed : text.EndsClosed := by decide
  obtain ⟨hfindings, -⟩ := gapFindings_annotated unmarked "fleet.md" hclosed 0
  refine ⟨hclosed, hfindings.trans ?_⟩
  decide +kernel

end Checker

end PageLint
