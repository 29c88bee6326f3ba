import PageLint.Proofs.AttributePlaces

/-!
# The layout of attributes

The names and values that are read from a text stand in it one behind the other: a name, its value, the
next name. Expressions in braces that stand for no attribute are apart from them. What is said here of
their positions alone (`Attributes.LaidOut`) determines all of them: a layout is that of a walk through
the text, and the other way round.

One direction is by induction over the walk. For the other, the walk is made from the layout: the brace
or the character of names that is next in the text is in some part of the layout, and can only be the
first character of the first one.

## Main results

* `Attributes.Walk.laidOut`, `Attributes.LaidOut.walk`: a walk has the layout, and a layout the walk.
* `Attributes.read_layout`: **where attributes stand**, for every text.
-/

namespace PageLint.Attributes

open Text (Slice utf8Size utf8Size_append utf8Size_cons)

/-! ### Where the parts of a walk stand -/

namespace Walk

variable {raw left : Text} {ps : List (Place raw)} {es : List (Slice raw)}

/-- What a walk takes off has the forms of names, values and expressions. -/
theorem forms (h : Walk raw left ps es) :
    (∀ p ∈ ps, IsName p.name.text p.name.behind ∧ p.Reads) ∧
      ∀ e ∈ es, EndsBraces e.text e.behind := by
  induction h with
  | done => exact ⟨fun _ h => absurd h List.not_mem_nil, fun _ h => absurd h List.not_mem_nil⟩
  | stray _ _ _ ih => exact ih
  | braces he _ ih => exact ⟨ih.1, List.forall_mem_cons.mpr ⟨he, ih.2⟩⟩
  | pair hname hreads _ ih => exact ⟨List.forall_mem_cons.mpr ⟨⟨hname, hreads⟩, ih.1⟩, ih.2⟩

/-- What a walk takes off stands in what is left of the text. -/
theorem le_start (h : Walk raw left ps es) :
    (∀ p ∈ ps, utf8Size raw ≤ p.name.start + utf8Size left) ∧
      ∀ e ∈ es, utf8Size raw ≤ e.start + utf8Size left := by
  induction h with
  | done => exact ⟨fun _ h => absurd h List.not_mem_nil, fun _ h => absurd h List.not_mem_nil⟩
  | stray _ _ _ ih =>
      rw [utf8Size_cons]
      refine ⟨fun p hp => ?_, fun e he => ?_⟩
      · have hle := ih.1 p hp
        omega
      · have hle := ih.2 e he
        omega
  | @braces e ps es _ _ ih =>
      have hstart := e.start_add
      rw [utf8Size_append] at hstart ⊢
      refine ⟨fun p hp => ?_, List.forall_mem_cons.mpr ⟨hstart.ge, fun e' he => ?_⟩⟩
      · have hle := ih.1 p hp
        omega
      · have hle := ih.2 e' he
        omega
  | @pair p ps es _ hreads _ ih =>
      have hstart := p.name.start_add
      have hend := p.value.stop_add
      have hnext := hreads.stop_le_start
      simp only [Slice.stop] at hend hnext
      refine ⟨List.forall_mem_cons.mpr ⟨hstart.ge, fun p' hp => ?_⟩, fun e he => ?_⟩
      · have hle := ih.1 p' hp
        omega
      · have hle := ih.2 e he
        omega

/-- Where no name stands, names begin further on. -/
theorem lt_start (h : Walk raw left ps es)
    (hhead : ∀ c, left.head? = some c → isNameChar c = false) {p : Place raw} (hp : p ∈ ps) :
    utf8Size raw < p.name.start + utf8Size left := by
  cases h with
  | done => exact absurd hp List.not_mem_nil
  | @stray c _ _ _ _ _ hrest =>
      have hle := hrest.le_start.1 p hp
      have hpos := Char.utf8Size_pos c
      rw [utf8Size_cons]
      omega
  | braces he hrest =>
      have hle := hrest.le_start.1 p hp
      have hpos := Text.utf8Size_pos he.ne_nil
      rw [utf8Size_append]
      omega
  | @pair q _ _ hname _ _ =>
      obtain ⟨c, name, htext⟩ := List.exists_cons_of_ne_nil hname.ne_nil
      have hc := hname.isNameChar_of_mem c (htext ▸ List.mem_cons_self)
      have hnot := hhead c (by rw [htext, List.cons_append, List.head?_cons])
      exact absurd hc (by rw [hnot]; decide)

/-- The names behind an attribute begin behind its value. -/
theorem value_precedes {p q : Place raw} (hname : IsName p.name.text p.name.behind)
    (hreads : p.Reads) (h : Walk raw p.value.behind ps es) (hq : q ∈ ps) :
    p.value.Precedes q.name := by
  have hend := p.value.stop_add
  have hle := h.le_start.1 q hq
  refine ⟨?_, by omega⟩
  by_cases hempty : p.value.text = []
  · have hstop : p.value.stop = p.value.start := by
      rw [Slice.stop, hempty]
      rfl
    have hlt : utf8Size raw < q.name.start + utf8Size p.value.behind := by
      refine h.lt_start (fun c hc => ?_) hq
      cases hreads with
      | flag _ hbehind _ => exact hname.longest c (hbehind ▸ hc)
      | valued _ _ _ hvalue =>
          rw [hempty] at hvalue
          rw [hvalue.behind_eq_nil] at hc
          cases hc
    omega
  · have hlt := p.value.start_lt_stop hempty
    omega

/-- The names and values of a walk stand one behind the other. -/
theorem pairwise_slices (h : Walk raw left ps es) :
    (ps.flatMap Place.slices).Pairwise Slice.Precedes := by
  induction h with
  | done => exact List.Pairwise.nil
  | stray _ _ _ ih => exact ih
  | braces _ _ ih => exact ih
  | @pair p ps es hname hreads hrest ih =>
      have hown : p.name.Precedes p.value :=
        ⟨(p.name.start_lt_stop hname.ne_nil).trans_le hreads.stop_le_start, hreads.stop_le_start⟩
      have hrestBehind : ∀ s ∈ ps.flatMap Place.slices, p.value.Precedes s := by
        intro s hs
        obtain ⟨q, hq, hs⟩ := List.mem_flatMap.mp hs
        have hname' := value_precedes hname hreads hrest hq
        obtain ⟨hqname, hqreads⟩ := hrest.forms.1 q hq
        rcases List.mem_pair.mp hs with rfl | rfl
        · exact hname'
        · exact hname'.trans (hqreads.name_precedes hqname)
      have hown := hreads.name_precedes hname
      refine List.pairwise_cons.mpr ⟨List.forall_mem_cons.mpr ⟨hown, fun s hs => ?_⟩, ?_⟩
      · exact hown.trans (hrestBehind s hs)
      · exact List.pairwise_cons.mpr ⟨hrestBehind, ih⟩

/-- The expressions of a walk stand one behind the other. -/
theorem pairwise_braces (h : Walk raw left ps es) : es.Pairwise Slice.Precedes := by
  induction h with
  | done => exact List.Pairwise.nil
  | stray _ _ _ ih => exact ih
  | pair _ _ _ ih => exact ih
  | @braces e _ _ he hrest ih =>
      refine List.pairwise_cons.mpr ⟨fun e' he' => ?_, ih⟩
      have hend := e.stop_add
      have hle := hrest.le_start.2 e' he'
      have hlt := e.start_lt_stop he.ne_nil
      exact ⟨by omega, by omega⟩

/-- Attributes and expressions stand apart. -/
theorem apart (h : Walk raw left ps es) {p : Place raw} (hp : p ∈ ps) {e : Slice raw} (he : e ∈ es) :
    p.value.stop ≤ e.start ∨ e.stop ≤ p.name.start := by
  induction h with
  | done => exact absurd hp List.not_mem_nil
  | stray _ _ _ ih => exact ih hp he
  | @braces e' _ _ _ hrest ih =>
      rcases List.mem_cons.mp he with rfl | he
      · have hend := e.stop_add
        have hle := hrest.le_start.1 p hp
        exact Or.inr (by omega)
      · exact ih hp he
  | @pair p' _ _ _ _ hrest ih =>
      rcases List.mem_cons.mp hp with rfl | hp
      · have hend := p.value.stop_add
        have hle := hrest.le_start.2 e he
        exact Or.inl (by omega)
      · exact ih hp he

/-- Nothing is left out: an opening brace stands in a value or in an expression, and a character of names
in a name if in neither of them. -/
theorem covers (h : Walk raw left ps es) {front back : Text} {c : Char}
    (hleft : left = front ++ c :: back) {i : Nat} (hi : i + utf8Size (c :: back) = utf8Size raw)
    (hc : c = '{' ∨ isNameChar c = true) :
    (∃ s ∈ ps.map Place.value ++ es, s.Holds i) ∨ isNameChar c = true ∧ ∃ p ∈ ps, p.name.Holds i := by
  induction h generalizing front with
  | done => cases (List.append_eq_nil_iff.mp hleft.symm).2
  | @stray d t ps es hbrace hname _ ih =>
      cases front with
      | nil =>
          obtain ⟨rfl, -⟩ := List.cons.inj hleft
          rcases hc with rfl | hc
          · exact absurd rfl hbrace
          · exact absurd hc (by rw [hname]; decide)
      | cons _ front =>
          obtain ⟨-, rfl⟩ := List.cons.inj hleft
          exact ih rfl
  | @braces e ps es _ _ ih =>
      rcases Text.append_eq_cases hleft with ⟨back', htext, rfl⟩ | ⟨front', hrest⟩
      · exact Or.inl ⟨e, by simp, e.holds_of_text_eq htext hi⟩
      · rcases ih hrest with ⟨s, hs, hholds⟩ | hname
        · refine Or.inl ⟨s, ?_, hholds⟩
          rcases List.mem_append.mp hs with hs | hs
          · exact List.mem_append_left _ hs
          · exact List.mem_append_right _ (List.mem_cons_of_mem _ hs)
        · exact Or.inr hname
  | @pair p ps es hname hreads _ ih =>
      obtain ⟨passed, hbehind, hpassed⟩ := hreads.exists_passed
      rcases Text.append_eq_cases hleft with ⟨back', htext, rfl⟩ | ⟨front', hrest⟩
      · have hchar := hname.isNameChar_of_mem c (by rw [htext]; simp)
        exact Or.inr ⟨hchar, p, List.mem_cons_self, p.name.holds_of_text_eq htext hi⟩
      rw [hbehind] at hrest
      rcases Text.append_eq_cases hrest with ⟨back', htext, -⟩ | ⟨front', hvalue⟩
      · obtain ⟨hbrace, hnot⟩ := hpassed c (by rw [htext]; simp)
        rcases hc with hc | hc
        · exact absurd hc hbrace
        · exact absurd hc (by rw [hnot]; decide)
      rcases Text.append_eq_cases hvalue with ⟨back', htext, rfl⟩ | ⟨front', hnext⟩
      · exact Or.inl ⟨p.value, List.mem_cons_self, p.value.holds_of_text_eq htext hi⟩
      · rcases ih hnext with ⟨s, hs, hholds⟩ | ⟨hchar, q, hq, hholds⟩
        · exact Or.inl ⟨s, List.mem_cons_of_mem _ hs, hholds⟩
        · exact Or.inr ⟨hchar, q, List.mem_cons_of_mem _ hq, hholds⟩

/-- No name begins inside of a value. -/
theorem not_value_holds (h : Walk raw left ps es) {p q : Place raw} (hp : p ∈ ps) (hq : q ∈ ps) :
    ¬q.value.Holds p.name.start := by
  induction h with
  | done => exact absurd hp List.not_mem_nil
  | stray _ _ _ ih => exact ih hp hq
  | braces _ _ ih => exact ih hp hq
  | pair hname hreads hrest ih =>
      have hown := hreads.name_precedes hname
      rcases List.mem_cons.mp hp with rfl | hp'
      · rcases List.mem_cons.mp hq with rfl | hq'
        · exact hown.not_holds.2
        · obtain ⟨hqname, hqreads⟩ := hrest.forms.1 q hq'
          have hnext := value_precedes hname hreads hrest hq'
          exact ((hown.trans hnext).trans (hqreads.name_precedes hqname)).not_holds.2
      · rcases List.mem_cons.mp hq with rfl | hq'
        · exact (value_precedes hname hreads hrest hp').not_holds.1
        · exact ih hp' hq'

/-- No name begins inside of an expression. -/
theorem not_braces_hold (h : Walk raw left ps es) {p : Place raw} (hp : p ∈ ps) {e : Slice raw}
    (he : e ∈ es) : ¬e.Holds p.name.start := by
  rintro ⟨hle, hlt⟩
  obtain ⟨hname, hreads⟩ := h.forms.1 p hp
  have hvalue := (hreads.name_precedes hname).1
  have hstop := p.value.start_le_stop
  rcases h.apart hp he with hbehind | hbefore
  · omega
  · omega

end Walk

/-! ### Layouts -/

/-- The layout of a text from a position on: its attributes, and the expressions in braces that stand for
none. -/
structure LaidOut (raw : Text) (i : Nat) (ps : List (Place raw)) (es : List (Slice raw)) : Prop where
  /-- Names begin at the position or behind it. -/
  le_name : ∀ p ∈ ps, i ≤ p.name.start
  /-- So do expressions. -/
  le_braces : ∀ e ∈ es, i ≤ e.start
  /-- A name precedes its value, and that the next name. -/
  ordered : (ps.flatMap Place.slices).Pairwise Slice.Precedes
  /-- Expressions stand one behind the other. -/
  bracesOrdered : es.Pairwise Slice.Precedes
  /-- An expression stands behind the value of an attribute, or before the name. -/
  apart : ∀ p ∈ ps, ∀ e ∈ es, p.value.stop ≤ e.start ∨ e.stop ≤ p.name.start
  /-- Names are as long as they can be. -/
  names : ∀ p ∈ ps, IsName p.name.text p.name.behind
  /-- Values are those of their names, and end where such values end. -/
  values : ∀ p ∈ ps, p.Reads
  /-- Expressions end where such expressions end. -/
  braces : ∀ e ∈ es, EndsBraces e.text e.behind
  /-- Every brace that opens is in a value or in an expression. -/
  holds_brace : ∀ s : Slice raw, s.text = ['{'] → i ≤ s.start →
    ∃ v ∈ ps.map Place.value ++ es, v.Holds s.start
  /-- Every character that names are made of is in a name, in a value or in an expression. -/
  holds_nameChar : ∀ (s : Slice raw) (c : Char), s.text = [c] → isNameChar c = true → i ≤ s.start →
    ∃ v ∈ ps.flatMap Place.slices ++ es, v.Holds s.start

/-- A walk takes a text apart as its layout has it. -/
theorem Walk.laidOut {raw before left : Text} {ps : List (Place raw)} {es : List (Slice raw)}
    (h : Walk raw left ps es) (hsplit : before ++ left = raw) :
    LaidOut raw (utf8Size before) ps es := by
  have hsize : utf8Size before + utf8Size left = utf8Size raw := by rw [← utf8Size_append, hsplit]
  have hcover : ∀ (s : Slice raw) (c : Char), s.text = [c] → utf8Size before ≤ s.start →
      (c = '{' ∨ isNameChar c = true) → (∃ v ∈ ps.map Place.value ++ es, v.Holds s.start) ∨
        isNameChar c = true ∧ ∃ p ∈ ps, p.name.Holds s.start := by
    intro s c htext hle hc
    have hsame : before ++ left = s.before ++ (c :: s.behind) := by
      rw [hsplit, ← List.singleton_append, ← htext, s.split]
    obtain ⟨front, -, hleft⟩ := Text.exists_of_boundaries hsame hle
    refine h.covers hleft ?_ hc
    have hstart := s.start_add
    rwa [htext] at hstart
  exact
    { le_name := fun p hp => by
        have hstart := h.le_start.1 p hp
        omega
      le_braces := fun e he => by
        have hstart := h.le_start.2 e he
        omega
      ordered := h.pairwise_slices
      bracesOrdered := h.pairwise_braces
      apart := fun p hp e he => h.apart hp he
      names := fun p hp => (h.forms.1 p hp).1
      values := fun p hp => (h.forms.1 p hp).2
      braces := h.forms.2
      holds_brace := fun s htext hle => by
        rcases hcover s '{' htext hle (Or.inl rfl) with hheld | ⟨hname, -⟩
        · exact hheld
        · exact absurd hname (by decide)
      holds_nameChar := fun s c htext hc hle => by
        rcases hcover s c htext hle (Or.inr hc) with ⟨v, hv, hholds⟩ | ⟨-, p, hp, hholds⟩
        · refine ⟨v, ?_, hholds⟩
          rcases List.mem_append.mp hv with hv | hv
          · obtain ⟨p, hp, rfl⟩ := List.mem_map.mp hv
            exact List.mem_append_left _ (Place.value_mem_slices hp)
          · exact List.mem_append_right _ hv
        · exact ⟨p.name, List.mem_append_left _ (Place.name_mem_slices hp), hholds⟩ }

/-! ### The walk of a layout -/

namespace LaidOut

variable {raw before t : Text} {i : Nat} {c : Char} {p : Place raw} {e : Slice raw}
  {ps : List (Place raw)} {es : List (Slice raw)}

/-- A name precedes its value. -/
theorem name_precedes (h : LaidOut raw i ps es) (hp : p ∈ ps) : p.name.Precedes p.value :=
  (h.values p hp).name_precedes (h.names p hp)

/-- The first attribute precedes the others. -/
theorem precedes (h : LaidOut raw i (p :: ps) es) {s : Slice raw} (hs : s ∈ ps.flatMap Place.slices) :
    p.name.Precedes s ∧ p.value.Precedes s := by
  have hordered := h.ordered
  rw [List.flatMap_cons, List.pairwise_append] at hordered
  exact ⟨hordered.2.2 p.name List.mem_cons_self s hs,
    hordered.2.2 p.value (List.mem_cons_of_mem _ List.mem_cons_self) s hs⟩

/-- An opening brace at the position is that of the first expression. -/
theorem exists_braces (h : LaidOut raw (utf8Size before) ps es) (hsplit : before ++ '{' :: t = raw) :
    ∃ e es', es = e :: es' ∧ e.start = utf8Size before := by
  obtain ⟨v, hv, hle, -⟩ := h.holds_brace ⟨before, ['{'], t, hsplit⟩ rfl (Nat.le_refl _)
  have hle : v.start ≤ utf8Size before := hle
  rcases List.mem_append.mp hv with hv | hv
  · obtain ⟨p, hp, rfl⟩ := List.mem_map.mp hv
    have hlt := (h.name_precedes hp).1
    have hstart := h.le_name p hp
    omega
  · have hstart := h.le_braces v hv
    cases es with
    | nil => exact absurd hv List.not_mem_nil
    | cons e es =>
        have hfirst := h.le_braces e List.mem_cons_self
        refine ⟨e, es, rfl, ?_⟩
        rcases List.mem_cons.mp hv with rfl | hv
        · omega
        · have hlt := (List.rel_of_pairwise_cons h.bracesOrdered hv).1
          omega

/-- A character of names at the position is that of the first name. -/
theorem exists_pair (h : LaidOut raw (utf8Size before) ps es) (hsplit : before ++ c :: t = raw)
    (hc : isNameChar c = true) : ∃ p ps', ps = p :: ps' ∧ p.name.start = utf8Size before := by
  obtain ⟨v, hv, hle, -⟩ := h.holds_nameChar ⟨before, [c], t, hsplit⟩ c rfl hc (Nat.le_refl _)
  have hle : v.start ≤ utf8Size before := hle
  rcases List.mem_append.mp hv with hv | hv
  · obtain ⟨p, hp, hv⟩ := List.mem_flatMap.mp hv
    have hstart := h.le_name p hp
    have hname : p.name.start ≤ v.start := by
      rcases List.mem_pair.mp hv with rfl | rfl
      · exact Nat.le_refl _
      · exact (h.name_precedes hp).1.le
    cases ps with
    | nil => exact absurd hp List.not_mem_nil
    | cons q ps =>
        have hfirst := h.le_name q List.mem_cons_self
        refine ⟨q, ps, rfl, ?_⟩
        rcases List.mem_cons.mp hp with rfl | hp
        · omega
        · have hlt := (h.precedes (Place.name_mem_slices hp)).1.1
          omega
  · have hstart := h.le_braces v hv
    have htext := v.text_append_behind hsplit (by omega)
    obtain ⟨e, he⟩ := List.head?_eq_some_iff.mp (h.braces v hv).head?_eq
    rw [he, List.cons_append] at htext
    obtain rfl := (List.cons.inj htext).1
    exact absurd hc (by decide)

/-- Behind its first expression the layout is that of the rest. -/
theorem behind_braces (h : LaidOut raw i ps (e :: es)) (he : e.start = i) :
    LaidOut raw e.stop ps es := by
  have hlt := e.start_lt_stop (h.braces e List.mem_cons_self).ne_nil
  have hheld : ∀ {vs : List (Slice raw)} {s : Slice raw}, e.stop ≤ s.start →
      (∃ v ∈ vs ++ e :: es, v.Holds s.start) → ∃ v ∈ vs ++ es, v.Holds s.start := by
    rintro vs s hle ⟨v, hv, hholds⟩
    refine ⟨v, ?_, hholds⟩
    rcases List.mem_append.mp hv with hv | hv
    · exact List.mem_append_left _ hv
    · rcases List.mem_cons.mp hv with rfl | hv
      · exact absurd hholds.2 (Nat.not_lt.mpr hle)
      · exact List.mem_append_right _ hv
  exact
    { le_name := fun p hp => by
        have hstart := h.le_name p hp
        have hvalue := (h.name_precedes hp).1
        have hstop := p.value.start_le_stop
        rcases h.apart p hp e List.mem_cons_self with hbefore | hbehind
        · omega
        · exact hbehind
      le_braces := fun e' he' => (List.rel_of_pairwise_cons h.bracesOrdered he').2
      ordered := h.ordered
      bracesOrdered := h.bracesOrdered.of_cons
      apart := fun p hp e' he' => h.apart p hp e' (List.mem_cons_of_mem _ he')
      names := h.names
      values := h.values
      braces := fun e' he' => h.braces e' (List.mem_cons_of_mem _ he')
      holds_brace := fun s htext hle => hheld hle (h.holds_brace s htext (by omega))
      holds_nameChar := fun s c htext hc hle => hheld hle (h.holds_nameChar s c htext hc (by omega)) }

/-- Behind its first attribute the layout is that of the rest. -/
theorem behind_pair (h : LaidOut raw i (p :: ps) es) (hp : p.name.start = i) :
    LaidOut raw p.value.stop ps es := by
  have hname := p.name.start_lt_stop (h.names p List.mem_cons_self).ne_nil
  have hvalue := h.name_precedes List.mem_cons_self
  have hstop := p.value.start_le_stop
  have hnext := hvalue.2
  have hordered := h.ordered
  rw [List.flatMap_cons, List.pairwise_append] at hordered
  exact
    { le_name := fun q hq => (h.precedes (Place.name_mem_slices hq)).2.2
      le_braces := fun e he => by
        have hstart := h.le_braces e he
        have hlt := e.start_lt_stop (h.braces e he).ne_nil
        rcases h.apart p List.mem_cons_self e he with hbehind | hbefore
        · exact hbehind
        · omega
      ordered := hordered.2.1
      bracesOrdered := h.bracesOrdered
      apart := fun q hq => h.apart q (List.mem_cons_of_mem _ hq)
      names := fun q hq => h.names q (List.mem_cons_of_mem _ hq)
      values := fun q hq => h.values q (List.mem_cons_of_mem _ hq)
      braces := h.braces
      holds_brace := fun s htext hle => by
        obtain ⟨v, hv, hholds⟩ := h.holds_brace s htext (by omega)
        rcases List.mem_cons.mp hv with rfl | hv
        · exact absurd hholds.2 (Nat.not_lt.mpr hle)
        · exact ⟨v, hv, hholds⟩
      holds_nameChar := fun s c htext hc hle => by
        obtain ⟨v, hv, hholds⟩ := h.holds_nameChar s c htext hc (by omega)
        rcases List.mem_cons.mp hv with rfl | hv
        · exact absurd hholds.2 (Nat.not_lt.mpr (by omega))
        rcases List.mem_cons.mp hv with rfl | hv
        · exact absurd hholds.2 (Nat.not_lt.mpr hle)
        · exact ⟨v, hv, hholds⟩ }

/-- Behind a character that belongs to nothing the layout is the same. -/
theorem behind_stray (h : LaidOut raw (utf8Size before) ps es) (hsplit : before ++ c :: t = raw)
    (hbrace : c ≠ '{') (hname : isNameChar c = false) :
    LaidOut raw (utf8Size (before ++ [c])) ps es := by
  have hle : utf8Size before ≤ utf8Size (before ++ [c]) := by
    rw [utf8Size_append]
    exact Nat.le_add_right _ _
  exact
    { h with
      le_name := fun p hp => by
        refine p.name.utf8Size_concat_le_start hsplit (h.le_name p hp) (h.names p hp).ne_nil
          fun hhead => ?_
        have hchar := (h.names p hp).isNameChar_of_mem c (List.mem_of_mem_head? hhead)
        exact absurd hchar (by rw [hname]; decide)
      le_braces := fun e he => by
        refine e.utf8Size_concat_le_start hsplit (h.le_braces e he) (h.braces e he).ne_nil
          fun hhead => ?_
        rw [(h.braces e he).head?_eq] at hhead
        exact hbrace (Option.some.inj hhead).symm
      holds_brace := fun s htext hs => h.holds_brace s htext (hle.trans hs)
      holds_nameChar := fun s d htext hd hs => h.holds_nameChar s d htext hd (hle.trans hs) }

/-- **A layout is that of a walk.** -/
theorem walk {left : Text} (h : LaidOut raw (utf8Size before) ps es) (hsplit : before ++ left = raw) :
    Walk raw left ps es := by
  induction hn : utf8Size left using Nat.strongRecOn generalizing before left ps es with
  | ind n ih =>
      subst hn
      cases left with
      | nil =>
          rw [List.append_nil] at hsplit
          subst hsplit
          have hps : ps = [] := List.eq_nil_iff_forall_not_mem.mpr fun p hp => by
            have hstart := h.le_name p hp
            have hlt := p.name.start_lt_stop (h.names p hp).ne_nil
            have hend := p.name.stop_add
            omega
          have hes : es = [] := List.eq_nil_iff_forall_not_mem.mpr fun e he => by
            have hstart := h.le_braces e he
            have hlt := e.start_lt_stop (h.braces e he).ne_nil
            have hend := e.stop_add
            omega
          rw [hps, hes]
          exact .done
      | cons c t =>
          by_cases hbrace : c = '{'
          · subst hbrace
            obtain ⟨e, es, rfl, hstart⟩ := h.exists_braces hsplit
            have he := h.braces e List.mem_cons_self
            have hleft := e.text_append_behind hsplit hstart
            have hrest := h.behind_braces hstart
            rw [e.stop_eq] at hrest
            have hless := e.utf8Size_behind_lt he.ne_nil
            rw [hleft] at hless
            exact hleft ▸ .braces he (ih _ hless hrest e.split_behind rfl)
          cases hname : isNameChar c with
          | true =>
              obtain ⟨p, ps, rfl, hstart⟩ := h.exists_pair hsplit hname
              have hp := h.names p List.mem_cons_self
              have hreads := h.values p List.mem_cons_self
              have hleft := p.name.text_append_behind hsplit hstart
              have hrest := h.behind_pair hstart
              rw [p.value.stop_eq] at hrest
              have hless := hreads.utf8Size_behind_lt hp
              rw [hleft] at hless
              exact hleft ▸ .pair hp hreads (ih _ hless hrest p.value.split_behind rfl)
          | false =>
              have hpos := Char.utf8Size_pos c
              refine .stray hbrace hname (ih (utf8Size t) ?_ (h.behind_stray hsplit hbrace hname) ?_ rfl)
              · rw [utf8Size_cons]
                omega
              · rw [List.append_assoc, List.singleton_append, hsplit]

end LaidOut

/-- Where the attributes of a text stand, and the expressions in braces that stand for none. -/
structure Layout (raw : Text) where
  /-- The attributes. -/
  places : List (Place raw)
  /-- The expressions. -/
  braces : List (Slice raw)
  /-- They are those of the text from its start on. -/
  laidOut : LaidOut raw 0 places braces

/-- **Where attributes stand.** Every text has a layout, well-formed or not, and the attributes that are
read are those of the layout. Names and values are parts of the text, cut out at their positions; a name
precedes its value, and the value the next name, with no overlap. A name goes on as far as it can; a value
is the empty part behind a flag, or ends with the first quote of its kind, with the brace that closes it or
before the first blank, or with the text. No name begins inside of a value or inside of an expression in
braces that stands for no attribute, and there are no other such expressions and no other names. -/
theorem read_layout (raw : Text) :
    (∀ s : Slice raw, raw.slice? s.start s.stop = some s.text) ∧ Nonempty (Layout raw) ∧
      ∀ l : Layout raw, (read raw).pairs = l.places.map Place.pair ∧
        ∀ p ∈ l.places, ∀ s ∈ l.places.map Place.value ++ l.braces, ¬s.Holds p.name.start := by
  refine ⟨fun s => s.slice?_eq, ?_, ?_⟩
  · obtain ⟨ps, es, hwalk⟩ := exists_walk (List.nil_append raw)
    exact ⟨⟨ps, es, hwalk.laidOut (List.nil_append raw)⟩⟩
  · rintro ⟨places, braces, hlayout⟩
    have hstart : LaidOut raw (utf8Size []) places braces := hlayout
    have hwalk := hstart.walk (List.nil_append raw)
    refine ⟨hwalk.readPairs_eq, fun p hp s hs => ?_⟩
    rcases List.mem_append.mp hs with hs | hs
    · obtain ⟨q, hq, rfl⟩ := List.mem_map.mp hs
      exact hwalk.not_value_holds hp hq
    · exact hwalk.not_braces_hold hp hs

/-- Neither the brace in the quotes nor the quotes are closed here. -/
example : (read "x=1 \x7b..props\x7d title='Trips \x7b".toList).pairs =
    [("x".toList, "1".toList), ("title".toList, "'Trips \x7b".toList)] := by cbv

end PageLint.Attributes
