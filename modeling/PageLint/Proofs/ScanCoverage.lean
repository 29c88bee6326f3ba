import PageLint.Proofs.Ordering
import PageLint.Proofs.Scanning

/-!
# What a scan covers

A scan from left to right stops at the first place at which its reader reads something, takes that
off as a whole, and goes on behind it. `Text.Scans` says this of a text and a list of fragments, and
the fragments that `Text.hits` finds are such a scan for every reader that takes something off
(`Text.scans_hits`).

Three facts follow by induction over a scan. A fragment stands in the text where it says
(`Text.Scans.mem`); the fragments come one behind the other (`Text.Scans.pairwise`); and a place at
which something can be read is the start of a fragment, or lies in one that began before
(`Text.Scans.covers`).

## Main results

* `Text.read_of_mem_hits`: **soundness** — a fragment is a part of the text, and is read there.
* `Text.pairwise_hits`: fragments do not overlap and are in order.
* `Text.exists_hit_of_read`: **completeness** — no place at which something can be read is left out.
* `Text.exists_hit_at_iff`: where a fragment begins.
-/

namespace PageLint

variable {α : Type} {read : Reader α}

/-- A reader that takes at least one character off the text, and leaves the rest as it is. -/
def Reader.Consumes (read : Reader α) : Prop :=
  ∀ before t value ahead, read before t = some (value, ahead) →
    ∃ source, source ≠ [] ∧ t = source ++ ahead

/-- A reader that begins with a head takes something off. -/
theorem Reader.consumes_of_head {read : Reader α}
    (h : ∀ before t value ahead, read before t = some (value, ahead) →
      ∃ head rest, head ≠ [] ∧ Text.after? head t = some rest ∧ ahead <:+ rest) :
    read.Consumes := by
  intro before t value ahead hread
  obtain ⟨head, rest, hne, hrest, passed, rfl⟩ := h before t value ahead hread
  obtain rfl := Text.after?_eq_some_iff.mp hrest
  exact ⟨head ++ passed, List.append_ne_nil_of_left_ne_nil hne passed, by rw [List.append_assoc]⟩

namespace Text

/-! ### Sizes -/

/-- A text that is not empty has at least a byte. -/
theorem utf8Size_pos {t : Text} (h : t ≠ []) : 0 < utf8Size t := by
  cases t with
  | nil => exact absurd rfl h
  | cons c t =>
      rw [utf8Size_cons]
      exact Nat.lt_add_right _ (Char.utf8Size_pos c)

/-- The size of a text does not depend on the direction in which it is read. -/
@[simp] theorem utf8Size_reverse (t : Text) : utf8Size t.reverse = utf8Size t := by
  induction t with
  | nil => rfl
  | cons c t ih =>
      rw [List.reverse_cons, utf8Size_append, ih, utf8Size_cons, utf8Size_cons, utf8Size_nil]
      omega

/-- A text is cut at a position in one way only. -/
theorem append_inj_of_utf8Size_eq {a b a' b' : Text} (h : a ++ b = a' ++ b')
    (hsize : utf8Size a = utf8Size a') : a = a' ∧ b = b' := by
  have hcut := cut?_utf8Size a b
  rw [h, hsize, cut?_utf8Size] at hcut
  obtain ⟨rfl, rfl⟩ := Prod.mk.inj (Option.some.inj hcut)
  exact ⟨rfl, rfl⟩

/-! ### Scans -/

/-- The fragments of a scan through a text from left to right. The first argument is the text before
it, nearest character first. -/
inductive Scans (read : Reader α) : (behind ahead : Text) → List (Hit α) → Prop where
  /-- The end of the text. -/
  | done (behind : Text) : Scans read behind [] []
  /-- Nothing can be read here: the next place is one character further. -/
  | pass {behind t : Text} {c : Char} {hs : List (Hit α)} :
      read behind.head? (c :: t) = none → Scans read (c :: behind) t hs →
      Scans read behind (c :: t) hs
  /-- Something is read here: the next place is behind it. -/
  | fragment {behind source ahead : Text} {value : α} {hs : List (Hit α)} :
      source ≠ [] → read behind.head? (source ++ ahead) = some (value, ahead) →
      Scans read (source.reverse ++ behind) ahead hs →
      Scans read behind (source ++ ahead) (⟨behind, source, value, ahead⟩ :: hs)

/-- The fragments that are found are those of a scan. -/
theorem scans_hitsFrom (hread : read.Consumes) (behind t : Text) :
    Scans read behind t (hitsFrom read behind 0 t) := by
  induction hn : t.length using Nat.strongRecOn generalizing behind t with
  | ind n ih =>
      subst hn
      cases t with
      | nil =>
          rw [hitsFrom]
          exact Scans.done behind
      | cons c t =>
          cases hvalue : read behind.head? (c :: t) with
          | none =>
              rw [hitsFrom_cons_of_none hvalue]
              exact Scans.pass hvalue (ih _ (Nat.lt_succ_self _) _ _ rfl)
          | some p =>
              obtain ⟨value, ahead⟩ := p
              obtain ⟨source, hne, hsplit⟩ := hread _ _ _ _ hvalue
              rw [hsplit] at hvalue ⊢
              rw [hitsFrom_fragment hne hvalue]
              refine Scans.fragment hne hvalue (ih ahead.length ?_ _ _ rfl)
              have hpos := List.length_pos_iff.mpr hne
              rw [hsplit, List.length_append]
              omega

/-- The fragments of a text are those of a scan from its start. -/
theorem scans_hits (hread : read.Consumes) (t : Text) : Scans read [] t (t.hits read) :=
  scans_hitsFrom hread [] t

variable {behind t : Text} {hs : List (Hit α)}

/-- A fragment stands behind some part of the text and before the rest, and is read there. -/
theorem Scans.mem (hscan : Scans read behind t hs) {h : Hit α} (hmem : h ∈ hs) :
    h.source ≠ [] ∧ read h.behind.head? (h.source ++ h.ahead) = some (h.value, h.ahead) ∧
      ∃ passed, h.behind = passed.reverse ++ behind ∧ t = passed ++ (h.source ++ h.ahead) := by
  induction hscan with
  | done => exact absurd hmem List.not_mem_nil
  | @pass behind t c hs _ _ ih =>
      obtain ⟨hne, hvalue, passed, hbehind, rfl⟩ := ih hmem
      exact ⟨hne, hvalue, c :: passed, by simp [hbehind], rfl⟩
  | @fragment behind source ahead value hs hne hvalue _ ih =>
      rcases List.mem_cons.mp hmem with rfl | hmem
      · exact ⟨hne, hvalue, [], rfl, rfl⟩
      · obtain ⟨hne', hvalue', passed, hbehind, rfl⟩ := ih hmem
        exact ⟨hne', hvalue', source ++ passed, by simp [hbehind], by rw [List.append_assoc]⟩

/-- The fragments of a scan begin behind what is already passed. -/
theorem Scans.le_start (hscan : Scans read behind t hs) {h : Hit α} (hmem : h ∈ hs) :
    utf8Size behind ≤ h.start := by
  obtain ⟨-, -, passed, hbehind, -⟩ := hscan.mem hmem
  rw [Hit.start, hbehind, utf8Size_append]
  exact Nat.le_add_left _ _

/-- Each fragment of a scan ends before the next begins. -/
theorem Scans.pairwise (hscan : Scans read behind t hs) :
    hs.Pairwise fun g h => g.stop ≤ h.start := by
  induction hscan with
  | done => exact List.Pairwise.nil
  | pass _ _ ih => exact ih
  | @fragment behind source ahead value hs _ _ hrest ih =>
      refine List.pairwise_cons.mpr ⟨?_, ih⟩
      intro h hmem
      have hle := hrest.le_start hmem
      rw [utf8Size_append, utf8Size_reverse] at hle
      simp only [Hit.stop, Hit.start] at hle ⊢
      omega

/-- A place at which something can be read is the start of a fragment, or it lies in a fragment that
began before. -/
theorem Scans.covers (hscan : Scans read behind t hs) {front back : Text} {p : α × Text}
    (ht : t = front ++ back) (hne : back ≠ [])
    (hvalue : read (front.reverse ++ behind).head? back = some p) :
    ∃ h ∈ hs, ∃ inner outer, outer ≠ [] ∧ h.source = inner ++ outer ∧ back = outer ++ h.ahead ∧
      front.reverse ++ behind = inner.reverse ++ h.behind := by
  induction hscan generalizing front with
  | done => exact absurd (List.append_eq_nil_iff.mp ht.symm).2 hne
  | @pass behind t c hs hnone _ ih =>
      cases front with
      | nil =>
          rw [List.nil_append] at ht
          rw [← ht, List.reverse_nil, List.nil_append, hnone] at hvalue
          cases hvalue
      | cons d front =>
          obtain ⟨rfl, rfl⟩ := List.cons.inj ht
          have hbehind : (c :: front).reverse ++ behind = front.reverse ++ c :: behind := by simp
          rw [hbehind] at hvalue ⊢
          exact ih rfl hvalue
  | @fragment behind source ahead value hs hsource _ _ ih =>
      rcases List.append_eq_append_iff.mp ht with ⟨passed, rfl, rfl⟩ | ⟨outer, rfl, rfl⟩
      · have hbehind : (source ++ passed).reverse ++ behind =
            passed.reverse ++ (source.reverse ++ behind) := by simp
        rw [hbehind] at hvalue ⊢
        obtain ⟨h, hmem, hcover⟩ := ih rfl hvalue
        exact ⟨h, List.mem_cons_of_mem _ hmem, hcover⟩
      · cases outer with
        | nil =>
            obtain ⟨h, hmem, hcover⟩ := @ih [] rfl (by simpa using hvalue)
            exact ⟨h, List.mem_cons_of_mem _ hmem, by simpa using hcover⟩
        | cons c outer =>
            exact ⟨_, List.mem_cons_self, front, c :: outer, List.cons_ne_nil _ _, rfl, rfl, rfl⟩

/-- The fragments of a scan are those that are found. -/
theorem Scans.eq_hitsFrom (hscan : Scans read behind t hs) : hs = hitsFrom read behind 0 t := by
  induction hscan with
  | done behind => rw [hitsFrom]
  | pass hnone _ ih => rw [hitsFrom_cons_of_none hnone, ih]
  | fragment hne hvalue _ ih => rw [hitsFrom_fragment hne hvalue, ih]

/-- The fragments behind one of a scan are those of the text behind it. -/
theorem Scans.exists_eq_append (hscan : Scans read behind t hs) {h : Hit α} (hmem : h ∈ hs) :
    ∃ gs, hs = gs ++ h :: hitsFrom read (h.source.reverse ++ h.behind) 0 h.ahead := by
  induction hscan with
  | done => exact absurd hmem List.not_mem_nil
  | pass _ _ ih => exact ih hmem
  | fragment _ _ hrest ih =>
      rcases List.mem_cons.mp hmem with rfl | hmem
      · exact ⟨[], by rw [List.nil_append, ← hrest.eq_hitsFrom]⟩
      · obtain ⟨gs, hgs⟩ := ih hmem
        exact ⟨_ :: gs, by rw [List.cons_append, ← hgs]⟩

/-! ### Fragments of a text -/

/-- **Soundness.** A fragment is a part of the text, not empty, and is read where it stands. -/
theorem read_of_mem_hits (hread : read.Consumes) {t : Text} {h : Hit α} (hmem : h ∈ t.hits read) :
    h.source ≠ [] ∧ read h.behind.head? (h.source ++ h.ahead) = some (h.value, h.ahead) ∧
      t = h.behind.reverse ++ (h.source ++ h.ahead) := by
  obtain ⟨hne, hvalue, passed, hbehind, ht⟩ := (scans_hits hread t).mem hmem
  refine ⟨hne, hvalue, ?_⟩
  rw [hbehind, List.append_nil, List.reverse_reverse]
  exact ht

/-- Each fragment of a text ends before the next begins. -/
theorem pairwise_hits (hread : read.Consumes) (t : Text) :
    (t.hits read).Pairwise fun g h => g.stop ≤ h.start :=
  (scans_hits hread t).pairwise

/-- **Completeness.** Wherever something can be read in a text there is a fragment: it begins there
and is what can be read, or it began before and has not ended. -/
theorem exists_hit_of_read (hread : read.Consumes) {front back : Text} {p : α × Text}
    (hne : back ≠ []) (hvalue : read front.reverse.head? back = some p) :
    ∃ h ∈ (front ++ back).hits read, ∃ inner outer, outer ≠ [] ∧ h.source = inner ++ outer ∧
      back = outer ++ h.ahead ∧ front = h.behind.reverse ++ inner ∧
      (inner = [] → p = (h.value, h.ahead)) := by
  obtain ⟨h, hmem, inner, outer, houter, hsource, hback, hfront⟩ :=
    (scans_hits hread (front ++ back)).covers rfl hne (by rwa [List.append_nil])
  have hbehind : front.reverse = inner.reverse ++ h.behind := by simpa using hfront
  refine ⟨h, hmem, inner, outer, houter, hsource, hback, ?_, ?_⟩
  · simpa using congrArg List.reverse hbehind
  · rintro rfl
    obtain ⟨-, hhit, -⟩ := read_of_mem_hits hread hmem
    rw [List.nil_append] at hsource
    rw [hbehind, hback, ← hsource] at hvalue
    exact Option.some.inj (hvalue.symm.trans hhit)

end Text

/-- The positions of a place inside a fragment. -/
theorem Hit.utf8Size_inside {h : Hit α} {front inner outer : Text}
    (hsource : h.source = inner ++ outer) (hfront : front = h.behind.reverse ++ inner) :
    Text.utf8Size front = h.start + Text.utf8Size inner ∧
      h.stop = Text.utf8Size front + Text.utf8Size outer := by
  have hsize : Text.utf8Size front = h.start + Text.utf8Size inner := by
    rw [hfront, Text.utf8Size_append, Text.utf8Size_reverse, Hit.start]
  refine ⟨hsize, ?_⟩
  rw [Hit.stop, hsource, Text.utf8Size_append, hsize, Nat.add_assoc]

/-- **Where a fragment begins.** A fragment begins at a place exactly when something can be read
there and no fragment lies over the place. -/
theorem Text.exists_hit_at_iff (hread : read.Consumes) {front back : Text} :
    (∃ h ∈ (front ++ back).hits read, h.start = Text.utf8Size front) ↔
      (∃ p, read front.reverse.head? back = some p) ∧
        ∀ h ∈ (front ++ back).hits read,
          Text.utf8Size front ≤ h.start ∨ h.stop ≤ Text.utf8Size front := by
  constructor
  · rintro ⟨h, hmem, hstart⟩
    refine ⟨⟨(h.value, h.ahead), ?_⟩, ?_⟩
    · obtain ⟨-, hvalue, hsplit⟩ := read_of_mem_hits hread hmem
      have hsize : Text.utf8Size front = Text.utf8Size h.behind.reverse := by
        rw [Text.utf8Size_reverse]
        exact hstart.symm
      obtain ⟨rfl, rfl⟩ := append_inj_of_utf8Size_eq hsplit hsize
      rwa [List.reverse_reverse]
    · intro g hg
      have hspan : h.start ≤ h.stop := Nat.le_add_right _ _
      by_cases hbefore : g.stop ≤ h.start
      · exact Or.inr (hstart ▸ hbefore)
      · by_cases hbehind : h.stop ≤ g.start
        · exact Or.inl (hstart ▸ hspan.trans hbehind)
        · obtain rfl := Ascending.eq_of_not_rel (pairwise_hits hread _) hg hmem hbefore hbehind
          exact Or.inl hstart.ge
  · rintro ⟨⟨⟨value, ahead⟩, hvalue⟩, hclear⟩
    have hne : back ≠ [] := by
      obtain ⟨source, hsource, rfl⟩ := hread _ _ _ _ hvalue
      exact List.append_ne_nil_of_left_ne_nil hsource ahead
    obtain ⟨h, hmem, inner, outer, houter, hsource, -, hfront, -⟩ :=
      exists_hit_of_read hread hne hvalue
    obtain ⟨hsize, hstop⟩ := Hit.utf8Size_inside hsource hfront
    have hpos := utf8Size_pos houter
    have hle : utf8Size front ≤ h.start := (hclear h hmem).resolve_right (by omega)
    exact ⟨h, hmem, by omega⟩

end PageLint
