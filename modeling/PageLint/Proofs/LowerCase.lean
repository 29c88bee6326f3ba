import PageLint.Text.CharClass
import PageLint.Text.Lowercase

/-!
# Lower case and places in a text

The lower case of a text is made character by character, but not of equally many characters, and a
capital sigma is looked at with what stands around it. Still, what is found in the lower case stands at
a place of the text: the lower case of a character is one character, which only a dot above can follow
(`Text.lowerFrom_cons`), and a fragment that does not begin with that dot begins with the lower case of
some character of the text (`Text.infix_lower_iff`).

A word between two breaks (`Text.Breaks`) has the lower case that it has alone
(`Text.lowerFrom_between`).

## Main results

* `Text.infix_lower_iff`: **what is found in the lower case** is the lower case of what follows some
  place.
* `Text.lowerFrom_between`: the lower case of a word in its surroundings.
-/

namespace PageLint

/-- The lower case of a character is a character and at most a dot above it. -/
theorem lowerChar_eq_cons (c : Char) :
    ∃ d dots, lowerChar c = d :: dots ∧ ∀ e ∈ dots, e = '\u0307' := by
  rw [lowerChar]
  split
  · exact ⟨_, [], rfl, fun _ h => absurd h List.not_mem_nil⟩
  · split
    · exact ⟨'i', ['\u0307'], rfl, fun _ => List.mem_singleton.mp⟩
    · split <;> exact ⟨_, [], rfl, fun _ h => absurd h List.not_mem_nil⟩

namespace Text

/-! ### Places -/

/-- The lower case of the character at a place, and of what follows it. -/
theorem lowerFrom_cons (behind : Text) (c : Char) (t : Text) :
    ∃ d dots, lowerFrom behind (c :: t) = d :: (dots ++ lowerFrom (c :: behind) t) ∧
      ∀ e ∈ dots, e = '\u0307' := by
  simp only [lowerFrom]
  split
  · split <;> exact ⟨_, [], rfl, fun _ h => absurd h List.not_mem_nil⟩
  · obtain ⟨d, dots, himage, hdots⟩ := lowerChar_eq_cons c
    exact ⟨d, dots, by rw [himage, List.cons_append], hdots⟩

/-- The lower case of what follows a place is the end of the lower case. -/
theorem lowerFrom_suffix (behind before ahead : Text) :
    lowerFrom (before.reverse ++ behind) ahead <:+ lowerFrom behind (before ++ ahead) := by
  induction before generalizing behind with
  | nil => exact List.suffix_refl _
  | cons c before ih =>
      obtain ⟨d, dots, himage, -⟩ := lowerFrom_cons behind c (before ++ ahead)
      rw [List.cons_append, himage, List.reverse_cons, List.append_assoc, List.singleton_append]
      exact (ih (c :: behind)).trans ((List.suffix_append dots _).trans (List.suffix_cons d _))

/-- A fragment that does not begin with a dot above is found behind the dots. -/
theorem infix_of_infix_dots {p : Char} {part dots t : Text} (hp : p ≠ '\u0307')
    (hdots : ∀ e ∈ dots, e = '\u0307') (h : p :: part <:+: dots ++ t) : p :: part <:+: t := by
  induction dots with
  | nil => exact h
  | cons e dots ih =>
      obtain ⟨he, hrest⟩ := List.forall_mem_cons.mp hdots
      rcases List.infix_cons_iff.mp h with hprefix | hinfix
      · exact absurd ((List.cons_prefix_cons.mp hprefix).1.trans he) hp
      · exact ih hrest hinfix

/-- **What is found in the lower case** is the lower case of what follows some place of the text. -/
theorem infix_lower_iff {p : Char} {part t : Text} (hp : p ≠ '\u0307') :
    p :: part <:+: lower t ↔
      ∃ before ahead, t = before ++ ahead ∧ p :: part <+: lowerFrom before.reverse ahead := by
  suffices h : ∀ behind, p :: part <:+: lowerFrom behind t ↔ ∃ before ahead, t = before ++ ahead ∧
      p :: part <+: lowerFrom (before.reverse ++ behind) ahead by
    simpa only [lower, List.append_nil] using h []
  intro behind
  constructor
  · intro h
    induction t generalizing behind with
    | nil => exact absurd (List.infix_nil.mp h) (List.cons_ne_nil _ _)
    | cons c t ih =>
        obtain ⟨d, dots, himage, hdots⟩ := lowerFrom_cons behind c t
        rw [himage] at h
        rcases List.infix_cons_iff.mp h with hprefix | hinfix
        · exact ⟨[], c :: t, rfl, by rw [List.reverse_nil, List.nil_append, himage]; exact hprefix⟩
        · obtain ⟨before, ahead, rfl, hplace⟩ :=
            ih (c :: behind) (infix_of_infix_dots hp hdots hinfix)
          refine ⟨c :: before, ahead, rfl, ?_⟩
          rwa [List.reverse_cons, List.append_assoc, List.singleton_append]
  · rintro ⟨before, ahead, rfl, hplace⟩
    exact hplace.isInfix.trans (lowerFrom_suffix behind before ahead).isInfix

/-- Characters that are their own lower case stay as they are, whatever stands around them. -/
theorem lowerFrom_append_of_lower {s : Text}
    (h : s.all (fun c => c != 'Σ' && lowerChar c == [c]) = true) (behind t : Text) :
    lowerFrom behind (s ++ t) = s ++ lowerFrom (s.reverse ++ behind) t := by
  induction s generalizing behind with
  | nil => rfl
  | cons c s ih =>
      simp only [List.all_cons, Bool.and_eq_true, bne_iff_ne, ne_eq, beq_iff_eq] at h
      obtain ⟨⟨hsigma, hlower⟩, hrest⟩ := h
      simp only [List.cons_append, lowerFrom, if_neg hsigma, hlower, ih hrest, List.nil_append,
        List.reverse_cons, List.append_assoc]

/-! ### Words -/

/-- Does a word end where the text begins? The first character has no case, and it is not looked
through when characters with case are searched. The end of a text is a break, too. -/
def Breaks (t : Text) : Prop := ∀ c, t.head? = some c → isCased c = false ∧ isCaseIgnorable c = false

/-- A character without case that is not looked through is a break. -/
theorem breaks_cons {c : Char} (t : Text) (hcased : isCased c = false)
    (hignorable : isCaseIgnorable c = false) : Breaks (c :: t) := by
  intro d hd
  obtain rfl := Option.some.inj hd
  exact ⟨hcased, hignorable⟩

/-- The code points of blanks have no case, and they are not looked through. -/
theorem spaceCodePoints_break : ∀ n ∈ spaceCodePoints,
    CharRanges.holds n CharRanges.casedRanges = false ∧
      CharRanges.holds n CharRanges.caseIgnorableRanges = false := by
  decide +kernel

/-- A blank is a break. -/
theorem breaks_of_isSpace {c : Char} (t : Text) (h : isSpace c = true) : Breaks (c :: t) := by
  obtain ⟨hcased, hignorable⟩ := spaceCodePoints_break _ (mem_spaceCodePoints h)
  exact breaks_cons t hcased hignorable

/-- Nothing with case is met behind a break. -/
theorem meetsCased_append {t : Text} (h : Breaks t) (s : Text) :
    meetsCased (s ++ t) = meetsCased s := by
  induction s with
  | nil =>
      cases t with
      | nil => rfl
      | cons c t =>
          obtain ⟨hcased, hignorable⟩ := h c rfl
          simp [meetsCased, hcased, hignorable]
  | cons c s ih =>
      rw [meetsCased] at ih ⊢
      by_cases hc : isCaseIgnorable c = true
      · rw [List.cons_append, List.dropWhile_cons_of_pos hc, ih, meetsCased, meetsCased,
          List.dropWhile_cons_of_pos hc]
      · rw [List.cons_append, List.dropWhile_cons_of_neg hc, meetsCased,
          List.dropWhile_cons_of_neg hc]
        rfl

/-- **A word between two breaks** has the lower case that it has alone. -/
theorem lowerFrom_between {behind ahead : Text} (hbehind : Breaks behind) (hahead : Breaks ahead)
    (w : Text) :
    lowerFrom behind (w ++ ahead) = lower w ++ lowerFrom (w.reverse ++ behind) ahead := by
  suffices h : ∀ passed, lowerFrom (passed ++ behind) (w ++ ahead) =
      lowerFrom passed w ++ lowerFrom (w.reverse ++ (passed ++ behind)) ahead from h []
  induction w with
  | nil => exact fun passed => rfl
  | cons c w ih =>
      intro passed
      have hrest := ih (c :: passed)
      simp only [List.cons_append] at hrest
      simp only [lowerFrom, List.cons_append, meetsCased_append hbehind, meetsCased_append hahead,
        hrest, List.reverse_cons, List.append_assoc, List.nil_append]

end Text

end PageLint
