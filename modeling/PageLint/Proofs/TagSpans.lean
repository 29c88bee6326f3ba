import PageLint.Proofs.Ordering
import PageLint.Proofs.ScanCoverage
import PageLint.Proofs.TagGrammar

/-!
# The spans of tags

A tag keeps the positions at which it begins and ends. What stands between them in the text is the
tag as it was written (`Tag.Shape`). An opening of a tag, that is `<` with the name of a component, a
word boundary and a `>` somewhere behind (`Tag.Opens`), is the start of a tag of that component, or
it was swallowed: a tag that began before has not come to its `>`.

Which kinds are asked for makes no difference to the scan (`Tag.ofKinds_eq_filter`): a tag of a kind
that is left out swallows what it swallows.

## Main results

* `Tag.exists_shape`: the span of a tag holds the tag.
* `Tag.exists_of_opens`: an opening lies in the span of a tag.
* `Tag.ofText_spans`: **the tags of a text are exactly its tags**, in order, without overlap, none
  twice and none left out, whichever kinds are asked for.
-/

namespace PageLint

namespace Text

/-- A part of a text is what stands between its two positions. -/
theorem slice?_append (before part rest : Text) :
    slice? (before ++ (part ++ rest)) (utf8Size before) (utf8Size before + utf8Size part) =
      some part := by
  have hle : ¬utf8Size before + utf8Size part < utf8Size before := by omega
  have hsize : utf8Size before + utf8Size part - utf8Size before = utf8Size part := by omega
  simp [slice?, hle, hsize, cut?_utf8Size]

/-- The two sides of a cut are the text. -/
theorem eq_append_of_cut? {n : Nat} {t before rest : Text} (h : cut? n t = some (before, rest)) :
    t = before ++ rest := by
  fun_induction cut? n t generalizing before with
  | case1 t =>
      obtain ⟨rfl, rfl⟩ := Prod.mk.inj (Option.some.inj h)
      rfl
  | case2 => cases h
  | case3 n c t _ ih =>
      obtain ⟨⟨before', rest'⟩, hcut, hpair⟩ := Option.map_eq_some_iff.mp h
      obtain ⟨rfl, rfl⟩ := Prod.mk.inj hpair
      rw [ih hcut, List.cons_append]
  | case4 => cases h

/-- A cut at a position leaves as many bytes before it. -/
theorem utf8Size_of_cut? {n : Nat} {t before ahead : Text} (h : cut? n t = some (before, ahead)) :
    utf8Size before = n := by
  fun_induction cut? n t generalizing before with
  | case1 t =>
      obtain ⟨rfl, rfl⟩ := Prod.mk.inj (Option.some.inj h)
      rfl
  | case2 => cases h
  | case3 n c t hle ih =>
      obtain ⟨⟨before', ahead'⟩, hcut, hpair⟩ := Option.map_eq_some_iff.mp h
      obtain ⟨rfl, rfl⟩ := Prod.mk.inj hpair
      rw [utf8Size_cons, ih hcut]
      omega
  | case4 => cases h

/-- What stands between two positions, with what is before the first and behind the second. -/
theorem exists_of_slice? {t part : Text} {start stop : Nat} (h : t.slice? start stop = some part) :
    ∃ before rest, t = before ++ (part ++ rest) ∧ utf8Size before = start ∧
      utf8Size (before ++ part) = stop := by
  rw [slice?] at h
  split at h
  · cases h
  · next hle =>
    obtain ⟨⟨before, ahead⟩, hcut, h⟩ := Option.bind_eq_some_iff.mp h
    obtain ⟨⟨part', rest⟩, hcut', hpart⟩ := Option.bind_eq_some_iff.mp h
    obtain rfl := Option.some.inj hpart
    have hstart := utf8Size_of_cut? hcut
    have hsize := utf8Size_of_cut? hcut'
    refine ⟨before, rest, ?_, hstart, ?_⟩
    · rw [eq_append_of_cut? hcut, eq_append_of_cut? hcut']
    · rw [utf8Size_append]
      omega

end Text

/-- The name of a component ends with a word character. -/
theorem ComponentKind.exists_getLast?_name (k : ComponentKind) :
    ∃ c, k.name.toList.getLast? = some c ∧ isWordChar c = true := by
  cases k <;> exact ⟨_, rfl, by decide +kernel⟩

namespace Tag

/-! ### Tags as they are written -/

/-- A tag as it stands in a text: its span holds `<`, the name of its kind, a word boundary, the text
`body ++ blanks` without `>`, and `>`. Of that text `body` is what is left without the blanks at its
end: the raw text of the tag and, if the tag closes itself, a slash. -/
structure Shape (t : Text) (tag : Tag) (body blanks : Text) : Prop where
  /-- What the span holds. -/
  source : t.slice? tag.start tag.stop =
    some ('<' :: (tag.kind.name.toList ++ ((body ++ blanks) ++ ['>'])))
  /-- The name is a whole word. -/
  boundary : Text.atWordBoundary tag.kind.name.toList.getLast? (body ++ blanks ++ ['>']) = true
  /-- The tag ends at the first `>`. -/
  closed : '>' ∉ body ++ blanks
  /-- There are only blanks behind the body. -/
  blank : ∀ c ∈ blanks, isSpace c = true
  /-- There is no blank at the end of the body. -/
  trimmed : ∀ c, body.getLast? = some c → isSpace c = false
  /-- A tag closes itself when a slash is the last of the body. -/
  selfClosing_iff : tag.selfClosing = true ↔ body.getLast? = some '/'
  /-- The raw text is the body without that slash. -/
  raw : body = tag.raw ++ if tag.selfClosing then ['/'] else []

/-- A tag of this kind opens at the head of the text: `<`, the name of the kind, a word boundary, and
`>` somewhere behind. -/
def Opens (kind : ComponentKind) (t : Text) : Prop :=
  ∃ rest, t = '<' :: (kind.name.toList ++ rest) ∧
    Text.atWordBoundary kind.name.toList.getLast? rest = true ∧ '>' ∈ rest

/-- Behind the name of a kind, a word ends where the next character is no word character. -/
theorem atWordBoundary_name_iff (kind : ComponentKind) (t : Text) :
    Text.atWordBoundary kind.name.toList.getLast? t = true ↔
      ∀ c, t.head? = some c → isWordChar c = false := by
  obtain ⟨c, hlast, hword⟩ := kind.exists_getLast?_name
  rw [hlast]
  exact Text.atWordBoundary_iff hword t

/-- A word ends between the name of a tag and its attributes, or its end. -/
theorem atWordBoundary_inner (kind : ComponentKind) {inner : Text}
    (h : ∀ c, inner.head? = some c → isWordChar c = false) (t : Text) :
    Text.atWordBoundary kind.name.toList.getLast? (inner ++ '>' :: t) = true := by
  refine (atWordBoundary_name_iff kind _).mpr fun c hc => ?_
  cases inner with
  | nil =>
      obtain rfl := Option.some.inj hc
      decide +kernel
  | cons d inner =>
      obtain rfl := Option.some.inj hc
      exact h d (List.head?_cons ..)

/-- Reading a tag takes something off. -/
theorem reader_consumes : reader.Consumes := by
  rintro before t ⟨kind, inner⟩ ahead hread
  obtain ⟨rfl, -, -⟩ := reader_eq_some_iff.mp hread
  exact ⟨'<' :: (kind.name.toList ++ (inner ++ ['>'])), List.cons_ne_nil _ _, by simp⟩

/-- What a fragment that was read as a tag is made of. -/
theorem source_of_mem_hits {t : Text} {h : Hit (ComponentKind × Text)}
    (hmem : h ∈ t.hits reader) :
    h.source = '<' :: (h.value.1.name.toList ++ (h.value.2 ++ ['>'])) ∧ '>' ∉ h.value.2 ∧
      (∀ c, h.value.2.head? = some c → isWordChar c = false) ∧
      t = h.behind.reverse ++ (h.source ++ h.ahead) := by
  obtain ⟨-, hread, ht⟩ := Text.read_of_mem_hits reader_consumes hmem
  obtain ⟨hsource, hend, hword⟩ := reader_eq_some_iff.mp hread
  refine ⟨List.append_cancel_right (hsource.trans ?_), hend, hword, ht⟩
  simp

/-- **The span of a tag holds the tag.** -/
theorem exists_shape {t : Text} {tag : Tag} (hmem : tag ∈ ofText t) :
    tag.start < tag.stop ∧ ∃ body blanks, Shape t tag body blanks := by
  obtain ⟨h, hh, rfl⟩ := List.mem_map.mp hmem
  obtain ⟨hsource, hend, hword, ht⟩ := source_of_mem_hits hh
  have hstart : (ofHit h).start = Text.utf8Size h.behind.reverse :=
    (Text.utf8Size_reverse h.behind).symm
  have hstop : (ofHit h).stop = Text.utf8Size h.behind.reverse + Text.utf8Size h.source :=
    congrArg (· + Text.utf8Size h.source) hstart
  have hpos : 0 < Text.utf8Size h.source :=
    Text.utf8Size_pos (hsource ▸ List.cons_ne_nil _ _)
  obtain ⟨blanks, hsplit, hblank, htrimmed⟩ := Text.exists_eq_trimEnd_append h.value.2
  refine ⟨by omega, h.value.2.trimEnd, blanks, ?_⟩
  refine { source := ?_, boundary := ?_, closed := ?_, blank := hblank, trimmed := htrimmed,
           selfClosing_iff := ?_, raw := ?_ }
  · rw [← hsplit, hstart, hstop, ht, Text.slice?_append, hsource]
    rfl
  · rw [← hsplit]
    exact atWordBoundary_inner _ hword []
  · rwa [← hsplit]
  · exact decide_eq_true_iff
  · simp only [ofHit, decide_eq_true_eq]
    split
    · next hslash => exact (List.dropLast_append_getLast? _ hslash).symm
    · rw [List.append_nil]

/-- The raw text of a tag stands in the tag, and behind it there is a slash, a blank or the end of the
tag. -/
theorem exists_eq_raw {t : Text} {tag : Tag} (hmem : tag ∈ ofText t) :
    ∃ before c ahead, t = before ++ (tag.raw ++ c :: ahead) ∧
      (tag.start < Text.utf8Size before ∧ Text.utf8Size (before ++ tag.raw) < tag.stop) ∧
      (c = '/' ∨ c = '>' ∨ isSpace c = true) := by
  obtain ⟨-, body, blanks, hshape⟩ := exists_shape hmem
  obtain ⟨before, ahead, ht, hstart, hstop⟩ := Text.exists_of_slice? hshape.source
  obtain ⟨c, rest, hbehind, hc⟩ : ∃ c rest,
      (if tag.selfClosing then ['/'] else []) ++ (blanks ++ ['>']) = c :: rest ∧
        (c = '/' ∨ c = '>' ∨ isSpace c = true) := by
    cases tag.selfClosing with
    | true => exact ⟨'/', blanks ++ ['>'], rfl, Or.inl rfl⟩
    | false =>
        cases hblanks : blanks with
        | nil => exact ⟨'>', [], rfl, Or.inr (Or.inl rfl)⟩
        | cons c rest =>
            have hblank := hshape.blank c (hblanks ▸ List.mem_cons_self)
            exact ⟨c, rest ++ ['>'], rfl, Or.inr (Or.inr hblank)⟩
  have hraw : body ++ blanks ++ ['>'] = tag.raw ++ c :: rest := by
    rw [hshape.raw, List.append_assoc, List.append_assoc, hbehind]
  have hopen := Char.utf8Size_pos '<'
  have hpos := Char.utf8Size_pos c
  rw [hraw] at ht hstop
  refine ⟨before ++ '<' :: tag.kind.name.toList, c, rest ++ ahead, ?_, ⟨?_, ?_⟩, hc⟩
  · rw [ht]
    simp
  · rw [← hstart, Text.utf8Size_append, Text.utf8Size_cons]
    omega
  · rw [← hstop]
    simp only [Text.utf8Size_append, Text.utf8Size_cons]
    omega

/-- Each tag ends before the next begins. -/
theorem pairwise_ofText (t : Text) : (ofText t).Pairwise fun a b => a.stop ≤ b.start :=
  List.pairwise_map.mpr (Text.pairwise_hits reader_consumes t)

/-- A position lies in the span of one tag at most. -/
theorem eq_of_mem_spans {t : Text} {a b : Tag} (ha : a ∈ ofText t) (hb : b ∈ ofText t) {p : Nat}
    (hap : a.start ≤ p ∧ p < a.stop) (hbp : b.start ≤ p ∧ p < b.stop) : a = b :=
  Ascending.eq_of_not_rel (pairwise_ofText t) ha hb (by omega) (by omega)

/-- Two tags that begin at one position are the same. -/
theorem eq_of_start_eq {t : Text} {a b : Tag} (ha : a ∈ ofText t) (hb : b ∈ ofText t)
    (h : a.start = b.start) : a = b := by
  have hspanA := (exists_shape ha).1
  have hspanB := (exists_shape hb).1
  exact eq_of_mem_spans ha hb (p := a.start) (by omega) (by omega)

/-- The first tag of some kind is the one that begins before the others. -/
theorem find?_ofText_eq_some_iff {t : Text} {p : Tag → Bool} {tag : Tag} :
    (ofText t).find? p = some tag ↔
      tag ∈ ofText t ∧ p tag = true ∧ ∀ other ∈ ofText t, p other = true → tag.start ≤ other.start := by
  have hleast {found : Tag} (h : (ofText t).find? p = some found) :
      ∀ other ∈ ofText t, p other = true → found.start ≤ other.start := by
    obtain ⟨-, before, after, htags, hbefore⟩ := List.find?_eq_some_iff_append.mp h
    have hspan := (exists_shape (List.mem_of_find?_eq_some h)).1
    have hordered := pairwise_ofText t
    intro other hother hp
    rw [htags] at hother hordered
    rcases List.mem_append.mp hother with hother | hother
    · have hpassed := hbefore other hother
      rw [hp] at hpassed
      cases hpassed
    · rcases List.mem_cons.mp hother with rfl | hother
      · exact Nat.le_refl _
      · have hstop := (List.pairwise_cons.mp (List.pairwise_append.mp hordered).2.1).1 other hother
        omega
  constructor
  · exact fun h => ⟨List.mem_of_find?_eq_some h, List.find?_some h, hleast h⟩
  · rintro ⟨hmem, hp, hfirst⟩
    cases hfound : (ofText t).find? p with
    | none => exact absurd hp (List.find?_eq_none.mp hfound tag hmem)
    | some found =>
        have hle := hleast hfound tag hmem hp
        have hge := hfirst found (List.mem_of_find?_eq_some hfound) (List.find?_some hfound)
        rw [eq_of_start_eq (List.mem_of_find?_eq_some hfound) hmem (Nat.le_antisymm hle hge)]

/-- At an opening a tag of its kind can be read. -/
theorem Opens.exists_read {kind : ComponentKind} {t : Text} (h : Opens kind t)
    (before : Option Char) : ∃ inner ahead, reader before t = some ((kind, inner), ahead) := by
  obtain ⟨rest, rfl, hboundary, hend⟩ := h
  obtain ⟨inner, ahead, rfl, hinner⟩ := List.eq_append_cons_of_mem hend
  refine ⟨inner, ahead, reader_eq_some_iff.mpr ⟨rfl, hinner, ?_⟩⟩
  intro c hc
  refine (atWordBoundary_name_iff kind _).mp hboundary c ?_
  cases inner with
  | nil => cases hc
  | cons d inner => exact hc

/-- Where a tag begins, a tag of its kind opens. -/
theorem opens_of_mem {before after : Text} {tag : Tag} (hmem : tag ∈ ofText (before ++ after))
    (hstart : tag.start = Text.utf8Size before) : Opens tag.kind after := by
  obtain ⟨h, hh, rfl⟩ := List.mem_map.mp hmem
  obtain ⟨hsource, -, hword, ht⟩ := source_of_mem_hits hh
  have hsize : Text.utf8Size before = Text.utf8Size h.behind.reverse := by
    rw [Text.utf8Size_reverse]
    exact hstart.symm
  obtain ⟨-, rfl⟩ := Text.append_inj_of_utf8Size_eq ht hsize
  refine ⟨h.value.2 ++ '>' :: h.ahead, ?_, atWordBoundary_inner _ hword _, by simp⟩
  rw [hsource]
  simp [ofHit]

/-- The tags behind a tag are those of the text behind it. -/
theorem exists_ofRest_of_mem {t : Text} {tag : Tag} (hmem : tag ∈ ofText t) :
    ∃ front behind ahead, ofText t = front ++ tag :: ofRest behind ahead ∧
      t = behind.reverse ++ ahead ∧ Text.utf8Size behind = tag.stop := by
  obtain ⟨h, hh, rfl⟩ := List.mem_map.mp hmem
  obtain ⟨-, -, ht⟩ := Text.read_of_mem_hits reader_consumes hh
  obtain ⟨gs, hgs⟩ := (Text.scans_hits reader_consumes t).exists_eq_append hh
  refine ⟨gs.map ofHit, h.source.reverse ++ h.behind, h.ahead, ?_, ?_, ?_⟩
  · rw [ofText, hgs, List.map_append, List.map_cons, ofRest]
  · rw [ht]
    simp
  · rw [Text.utf8Size_append, Text.utf8Size_reverse, Nat.add_comm]
    rfl

/-- The only `>` of a tag is its last character. -/
theorem notMem_of_source {h : Hit (ComponentKind × Text)} {t passed outer : Text}
    (hmem : h ∈ t.hits reader) (hsource : h.source = passed ++ outer) (houter : outer ≠ []) :
    '>' ∉ passed := by
  obtain ⟨hform, hend, -, -⟩ := source_of_mem_hits hmem
  have hbody : passed ++ outer.dropLast = '<' :: (h.value.1.name.toList ++ h.value.2) := by
    rw [← List.dropLast_append_of_ne_nil houter, ← hsource, hform, ← List.append_assoc,
      ← List.cons_append, List.dropLast_concat]
  intro hpassed
  have hmem' : '>' ∈ '<' :: (h.value.1.name.toList ++ h.value.2) :=
    hbody ▸ List.mem_append_left _ hpassed
  simp only [List.mem_cons, List.mem_append] at hmem'
  rcases hmem' with heq | hname | hinner
  · exact absurd heq (by decide)
  · exact h.value.1.notMem_name hname
  · exact hend hinner

/-- **An opening lies in the span of a tag.** It is the start of a tag of its kind, or a tag that
began before has not come to its `>`. -/
theorem exists_of_opens {before after : Text} {kind : ComponentKind} (hopens : Opens kind after) :
    ∃ tag ∈ ofText (before ++ after),
      (tag.start ≤ Text.utf8Size before ∧ Text.utf8Size before < tag.stop) ∧
      (tag.start = Text.utf8Size before ∧ tag.kind = kind ∨
        tag.start < Text.utf8Size before ∧ ∃ part,
          (before ++ after).slice? tag.start (Text.utf8Size before) = some part ∧ '>' ∉ part) := by
  obtain ⟨inner, ahead, hread⟩ := hopens.exists_read before.reverse.head?
  have hne : after ≠ [] := by
    obtain ⟨rest, rfl, -⟩ := hopens
    exact List.cons_ne_nil _ _
  obtain ⟨h, hmem, passed, outer, houter, hsource, hafter, hbefore, hvalue⟩ :=
    Text.exists_hit_of_read reader_consumes hne hread
  obtain ⟨hsize, hstop⟩ := Hit.utf8Size_inside hsource hbefore
  have hpos := Text.utf8Size_pos houter
  refine ⟨ofHit h, List.mem_map_of_mem hmem, ⟨?_, ?_⟩, ?_⟩
  · exact hsize ▸ Nat.le_add_right _ _
  · exact (Nat.lt_add_of_pos_right hpos).trans_eq hstop.symm
  cases passed with
  | nil =>
      have hkind : kind = h.value.1 := congrArg (·.1.1) (hvalue rfl)
      exact Or.inl ⟨hsize.symm, hkind.symm⟩
  | cons c passed =>
      have hpassed : 0 < Text.utf8Size (c :: passed) := Text.utf8Size_pos (List.cons_ne_nil c passed)
      refine Or.inr ⟨hsize ▸ Nat.lt_add_of_pos_right hpassed, c :: passed, ?_,
        notMem_of_source hmem hsource houter⟩
      have hstart : (ofHit h).start = Text.utf8Size h.behind.reverse :=
        (Text.utf8Size_reverse h.behind).symm
      have hend : Text.utf8Size before =
          Text.utf8Size h.behind.reverse + Text.utf8Size (c :: passed) := by
        rw [hsize, Text.utf8Size_reverse, Hit.start]
      rw [hstart, hend, hafter, hbefore, List.append_assoc]
      exact Text.slice?_append _ _ _

/-! ### Kinds -/

/-- The tags of some kinds are those among all tags. -/
theorem ofKinds_eq_filter (kinds : List ComponentKind) (t : Text) :
    ofKinds kinds t = (ofText t).filter fun tag => kinds.contains tag.kind := by
  rw [ofKinds, ofText, List.filter_map, ← List.filterMap_eq_map, List.filterMap_filter]
  rfl

/-- The tags of all kinds are all tags. -/
theorem ofKinds_all (t : Text) : ofKinds ComponentKind.all t = ofText t := by
  rw [ofKinds_eq_filter, List.filter_eq_self]
  intro tag _
  exact List.contains_iff_mem.mpr tag.kind.mem_all

/-- **Every tag of a text is found exactly once.** The tags of all kinds stand one behind the other,
each with a span that holds it as it was written. An opening at any position lies in the span of one
tag and of no other: it is the start of that tag, which is of its kind, or the tag began before and
there is no `>` between its start and the opening. The tags of some kinds are those among the tags of
all kinds. -/
theorem ofText_spans (t : Text) :
    ofKinds ComponentKind.all t = ofText t ∧
    ((ofText t).Pairwise fun a b => a.stop ≤ b.start) ∧
    (∀ tag ∈ ofText t, tag.start < tag.stop ∧ ∃ body blanks, Shape t tag body blanks) ∧
    (∀ before after kind, t = before ++ after → Opens kind after →
      ∃ tag ∈ ofText t,
        (tag.start ≤ Text.utf8Size before ∧ Text.utf8Size before < tag.stop) ∧
        (∀ other ∈ ofText t,
          other.start ≤ Text.utf8Size before ∧ Text.utf8Size before < other.stop → other = tag) ∧
        (tag.start = Text.utf8Size before ∧ tag.kind = kind ∨
          tag.start < Text.utf8Size before ∧ ∃ part,
            t.slice? tag.start (Text.utf8Size before) = some part ∧ '>' ∉ part)) ∧
    ∀ kinds, ofKinds kinds t = (ofText t).filter fun tag => kinds.contains tag.kind := by
  refine ⟨ofKinds_all t, pairwise_ofText t, fun tag => exists_shape, ?_, fun kinds =>
    ofKinds_eq_filter kinds t⟩
  rintro before after kind rfl hopens
  obtain ⟨tag, hmem, hspan, hplace⟩ := @exists_of_opens before after kind hopens
  exact ⟨tag, hmem, hspan, fun other hother hspan' => eq_of_mem_spans hother hmem hspan' hspan,
    hplace⟩

/-- A grid whose tag has no end before the next component swallows that component: the opening of the
column is in the tag of the grid. A name that goes on behind the name of a component is none. -/
theorem ofText_spans_swallowed :
    let before : Text := "<Grids/><Grid cols=2 ".toList
    let after : Text := "<Column id=x /><BigValue/>".toList
    let tags := ofText (before ++ after)
    Opens .column after ∧
      tags.map (fun tag => (tag.kind, tag.selfClosing, tag.start, tag.stop)) =
        [(.grid, true, 8, 36), (.bigValue, true, 36, 47)] ∧
      ∃ tag ∈ tags, (tag.start ≤ 21 ∧ 21 < tag.stop) ∧
        ∀ other ∈ tags, other.start ≤ 21 ∧ 21 < other.stop → other = tag := by
  intro before after tags
  have hopens : Opens .column after :=
    ⟨" id=x /><BigValue/>".toList, by decide, by decide +kernel, by decide⟩
  obtain ⟨-, -, -, hcovers, -⟩ := ofText_spans (before ++ after)
  obtain ⟨tag, hmem, hspan, hother, -⟩ := hcovers before after .column rfl hopens
  have hsize : Text.utf8Size before = 21 := by decide
  rw [hsize] at hspan hother
  exact ⟨hopens, by decide +kernel, tag, hmem, hspan, hother⟩

end Tag

end PageLint
