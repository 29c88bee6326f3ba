import PageLint.Pattern.Basic

/-!
# What patterns match

A pattern matches a text from one place to another (`Pattern.Matches`), by the structure of the
pattern: a repetition is a chain of matches (`Pattern.Chain`). Matching goes through sets of places
instead: `Pattern.advance` takes the places at which a pattern may start to the places to which it
leads. Repetitions stop early there, a fixed count at the first set that stays the same, and a count
with room upwards after as many rounds as the text has places. Nothing is lost by that, since a match
never goes back, so a chain without idle steps is no longer than the text (`Pattern.Chain.shorten`).

## Main results

* `Pattern.leads_steps`, `Pattern.leads_spread`: repetitions of a step.
* `Pattern.leads_advance`: **a pattern leads to a place exactly if it matches up to it**.
* `Pattern.occursIn_iff`: a pattern occurs in a text where it matches some part.
-/

namespace PageLint.Pattern

/-! ### Matches -/

/-- A number of steps, one behind the other. -/
def Chain (R : Nat → Nat → Prop) : (n : Nat) → Nat → Nat → Prop
  | 0, i, j => j = i
  | n + 1, i, k => ∃ j, R i j ∧ Chain R n j k

/-- The pattern matches the text from the first place to the second. -/
def Matches (t : Text) : Pattern → Nat → Nat → Prop
  | empty, i, j => j = i
  | char set, i, j => (∃ c, t[i]? = some c ∧ set.holds c = true) ∧ j = i + 1
  | place p, i, j => p.holds (if i = 0 then none else t[i - 1]?) t[i]? = true ∧ j = i
  | seq p q, i, k => ∃ j, Matches t p i j ∧ Matches t q j k
  | alt p q, i, j => Matches t p i j ∨ Matches t q i j
  | times min max p, i, j =>
    ∃ n, min ≤ n ∧ (∀ m, max = some m → n - min ≤ m - min) ∧ Chain (Matches t p) n i j

/-- Steps that do not go back and do not leave the text. -/
structure Forward (t : Text) (R : Nat → Nat → Prop) : Prop where
  /-- No step goes back. -/
  le : ∀ {i j}, R i j → i ≤ j
  /-- No step leaves the text. -/
  le_length : ∀ {i j}, R i j → i ≤ t.length → j ≤ t.length

section

variable {R : Nat → Nat → Prop} {t : Text}

/-- Two chains make one. -/
theorem Chain.append {m n i j k : Nat} (h : Chain R m i j) (h' : Chain R n j k) :
    Chain R (m + n) i k := by
  induction m generalizing i with
  | zero =>
      obtain rfl : j = i := h
      rwa [Nat.zero_add]
  | succ m ih =>
      obtain ⟨i', hstep, hrest⟩ := h
      rw [Nat.add_right_comm]
      exact ⟨i', hstep, ih hrest⟩

/-- A chain can be cut behind any number of its steps. -/
theorem Chain.split {m n i k : Nat} (h : Chain R (m + n) i k) :
    ∃ j, Chain R m i j ∧ Chain R n j k := by
  induction m generalizing i with
  | zero =>
      rw [Nat.zero_add] at h
      exact ⟨i, rfl, h⟩
  | succ m ih =>
      rw [Nat.add_right_comm] at h
      obtain ⟨i', hstep, hrest⟩ := h
      obtain ⟨j, hleft, hright⟩ := ih hrest
      exact ⟨j, ⟨i', hstep, hleft⟩, hright⟩

/-- A chain does not leave places that no step leaves. -/
theorem Chain.mem_of_closed {is : List Nat} (hclosed : ∀ i ∈ is, ∀ j, R i j → j ∈ is) {n i j : Nat}
    (h : Chain R n i j) (hi : i ∈ is) : j ∈ is := by
  induction n generalizing i with
  | zero =>
      obtain rfl : j = i := h
      exact hi
  | succ n ih =>
      obtain ⟨i', hstep, hrest⟩ := h
      exact ih hrest (hclosed i hi i' hstep)

/-- Chains of steps that do not go back are such steps themselves. -/
theorem forward_chain (hR : Forward t R) (n : Nat) : Forward t (Chain R n) := by
  induction n with
  | zero =>
      refine ⟨?_, ?_⟩
      · rintro i j rfl
        exact Nat.le_refl _
      · rintro i j rfl h
        exact h
  | succ n ih =>
      refine ⟨?_, ?_⟩
      · rintro i k ⟨j, hstep, hrest⟩
        exact Nat.le_trans (hR.le hstep) (ih.le hrest)
      · rintro i k ⟨j, hstep, hrest⟩ h
        exact ih.le_length hrest (hR.le_length hstep h)

/-- A chain without its idle steps has at most as many steps as there are places on its way. -/
theorem Chain.shorten (hR : Forward t R) {n i j : Nat} (h : Chain R n i j) :
    ∃ m ≤ n, m ≤ j - i ∧ Chain R m i j := by
  induction n generalizing i with
  | zero =>
      obtain rfl : j = i := h
      exact ⟨0, Nat.le_refl 0, Nat.zero_le _, rfl⟩
  | succ n ih =>
      obtain ⟨i', hstep, hrest⟩ := h
      obtain ⟨m, hmn, hm, hchain⟩ := ih hrest
      have hle := hR.le hstep
      have hle' := (forward_chain hR n).le hrest
      by_cases hidle : i' = i
      · subst hidle
        exact ⟨m, by omega, hm, hchain⟩
      · exact ⟨m + 1, by omega, by omega, i', hstep, hchain⟩

end

/-- A match does not go back and does not leave the text. -/
theorem forward_matches (t : Text) (p : Pattern) : Forward t (Matches t p) := by
  induction p with
  | empty => exact forward_chain (R := fun _ _ => False) ⟨False.elim, False.elim⟩ 0
  | char set =>
      refine ⟨?_, ?_⟩
      · rintro i j ⟨-, rfl⟩
        omega
      · rintro i j ⟨⟨c, hc, -⟩, rfl⟩ -
        exact (List.getElem?_eq_some_iff.mp hc).1
  | place p =>
      refine ⟨?_, ?_⟩
      · rintro i j ⟨-, rfl⟩
        exact Nat.le_refl _
      · rintro i j ⟨-, rfl⟩ h
        exact h
  | seq p q ihp ihq =>
      refine ⟨?_, ?_⟩
      · rintro i k ⟨j, hp, hq⟩
        exact Nat.le_trans (ihp.le hp) (ihq.le hq)
      · rintro i k ⟨j, hp, hq⟩ h
        exact ihq.le_length hq (ihp.le_length hp h)
  | alt p q ihp ihq =>
      refine ⟨?_, ?_⟩
      · rintro i j (h | h)
        · exact ihp.le h
        · exact ihq.le h
      · rintro i j (h | h) hi
        · exact ihp.le_length h hi
        · exact ihq.le_length h hi
  | times min max p ih =>
      refine ⟨?_, ?_⟩
      · rintro i j ⟨n, -, -, h⟩
        exact (forward_chain ih n).le h
      · rintro i j ⟨n, -, -, h⟩ hi
        exact (forward_chain ih n).le_length h hi

/-! ### Sets of places -/

/-- The places of a list ascend. -/
def Places.Ascend (is : Places) : Prop := is.Pairwise (· < ·)

/-- A union has the places of both sets. -/
theorem mem_merge {is ks : Places} {j : Nat} : j ∈ merge is ks ↔ j ∈ is ∨ j ∈ ks := by
  fun_induction merge is ks with
  | case1 ks => simp
  | case2 is => simp
  | case3 i is k ks hlt ih =>
      rw [List.mem_cons, ih, List.mem_cons (l := is), or_assoc]
  | case4 i is k ks hlt hgt ih =>
      rw [List.mem_cons, ih, List.mem_cons (a := j) (b := k)]
      exact or_left_comm
  | case5 i is k ks hlt hgt ih =>
      obtain rfl : i = k := by omega
      rw [List.mem_cons, ih, List.mem_cons, List.mem_cons]
      exact or_or_distrib_left

/-- The places of a union ascend. -/
theorem ascend_merge {is ks : Places} (his : is.Ascend) (hks : ks.Ascend) :
    (merge is ks).Ascend := by
  fun_induction merge is ks with
  | case1 ks => exact hks
  | case2 is => exact his
  | case3 i is k ks hlt ih =>
      obtain ⟨hi, his'⟩ := List.pairwise_cons.mp his
      refine List.pairwise_cons.mpr ⟨?_, ih his' hks⟩
      intro j hj
      rcases mem_merge.mp hj with hj | hj
      · exact hi j hj
      · rcases List.mem_cons.mp hj with rfl | hj
        · exact hlt
        · exact Nat.lt_trans hlt ((List.pairwise_cons.mp hks).1 j hj)
  | case4 i is k ks hlt hgt ih =>
      obtain ⟨hk, hks'⟩ := List.pairwise_cons.mp hks
      refine List.pairwise_cons.mpr ⟨?_, ih his hks'⟩
      intro j hj
      rcases mem_merge.mp hj with hj | hj
      · rcases List.mem_cons.mp hj with rfl | hj
        · exact hgt
        · exact Nat.lt_trans hgt ((List.pairwise_cons.mp his).1 j hj)
      · exact hk j hj
  | case5 i is k ks hlt hgt ih =>
      obtain ⟨hi, his'⟩ := List.pairwise_cons.mp his
      obtain ⟨hk, hks'⟩ := List.pairwise_cons.mp hks
      refine List.pairwise_cons.mpr ⟨?_, ih his' hks'⟩
      intro j hj
      rcases mem_merge.mp hj with hj | hj
      · exact hi j hj
      · have := hk j hj
        omega

/-- A difference keeps the places of its set in their order. -/
theorem minus_sublist (is ks : Places) : List.Sublist (minus is ks) is := by
  fun_induction minus is ks with
  | case1 => exact List.Sublist.refl _
  | case2 => exact List.Sublist.refl _
  | case3 i is k ks hlt ih => exact ih.cons_cons i
  | case4 i is k ks hlt hgt ih => exact ih
  | case5 i is k ks hlt hgt ih => exact ih.cons i

/-- A difference has the places of the first set that are not in the second. -/
theorem mem_minus {is ks : Places} (his : is.Ascend) (hks : ks.Ascend) {j : Nat} :
    j ∈ minus is ks ↔ j ∈ is ∧ j ∉ ks := by
  fun_induction minus is ks with
  | case1 => simp
  | case2 => simp
  | case3 i is k ks hlt ih =>
      obtain ⟨hi, his'⟩ := List.pairwise_cons.mp his
      have hnot : i ∉ k :: ks := by
        intro hmem
        rcases List.mem_cons.mp hmem with rfl | hmem
        · omega
        · have := (List.pairwise_cons.mp hks).1 i hmem
          omega
      rw [List.mem_cons, ih his' hks, List.mem_cons (l := is)]
      constructor
      · rintro (rfl | ⟨hmem, hout⟩)
        · exact ⟨Or.inl rfl, hnot⟩
        · exact ⟨Or.inr hmem, hout⟩
      · rintro ⟨rfl | hmem, hout⟩
        · exact Or.inl rfl
        · exact Or.inr ⟨hmem, hout⟩
  | case4 i is k ks hlt hgt ih =>
      rw [ih his (List.pairwise_cons.mp hks).2, List.mem_cons (l := ks), not_or]
      refine and_congr_right fun hmem => (and_iff_right ?_).symm
      rintro rfl
      rcases List.mem_cons.mp hmem with rfl | hmem
      · omega
      · have := (List.pairwise_cons.mp his).1 _ hmem
        omega
  | case5 i is k ks hlt hgt ih =>
      obtain rfl : i = k := by omega
      obtain ⟨hi, his'⟩ := List.pairwise_cons.mp his
      obtain ⟨-, hks'⟩ := List.pairwise_cons.mp hks
      rw [ih his' hks', List.mem_cons, List.mem_cons, not_or]
      constructor
      · rintro ⟨hmem, hout⟩
        have := hi j hmem
        exact ⟨Or.inr hmem, by omega, hout⟩
      · rintro ⟨rfl | hmem, hne, hout⟩
        · exact absurd rfl hne
        · exact ⟨hmem, hout⟩

/-! ### Steps on sets of places -/

/-- Places of the text, ascending. -/
structure Places.Within (t : Text) (is : Places) : Prop where
  /-- The places ascend. -/
  ascend : is.Ascend
  /-- They are in the text or at its end. -/
  le_length : ∀ i ∈ is, i ≤ t.length

/-- A step on sets of places follows a relation. -/
structure Leads (t : Text) (step : Places → Places) (R : Nat → Nat → Prop) : Prop where
  /-- The relation does not go back and does not leave the text. -/
  forward : Forward t R
  /-- The places that the step leads to ascend. -/
  ascend : ∀ {is : Places}, is.Within t → (step is).Ascend
  /-- They are those that are related to a place. -/
  mem_iff : ∀ {is : Places}, is.Within t → ∀ {j}, j ∈ step is ↔ ∃ i ∈ is, R i j

section

variable {t : Text} {step : Places → Places} {R : Nat → Nat → Prop}

/-- A step stays in the text. -/
theorem Leads.within (h : Leads t step R) {is : Places} (his : is.Within t) :
    (step is).Within t := by
  refine ⟨h.ascend his, ?_⟩
  intro j hj
  obtain ⟨i, hi, hij⟩ := (h.mem_iff his).mp hj
  exact h.forward.le_length hij (his.le_length i hi)

/-- Where a step does not lead to other places, no number of steps does. -/
theorem Leads.mem_of_chain (h : Leads t step R) {is : Places} (his : is.Within t)
    (hstep : step is = is) {n i j : Nat} (hi : i ∈ is) (hchain : Chain R n i j) : j ∈ is := by
  refine hchain.mem_of_closed ?_ hi
  intro i hi j hij
  rw [← hstep]
  exact (h.mem_iff his).mpr ⟨i, hi, hij⟩

/-- Where a step does not lead to other places, each place has a chain of any length to it. -/
theorem Leads.exists_chain (h : Leads t step R) {is : Places} (his : is.Within t)
    (hstep : step is = is) (n : Nat) {j : Nat} (hj : j ∈ is) : ∃ i ∈ is, Chain R n i j := by
  induction n generalizing j with
  | zero => exact ⟨j, hj, rfl⟩
  | succ n ih =>
      obtain ⟨i', hi', hchain⟩ := ih hj
      rw [← hstep] at hi'
      obtain ⟨i, hi, hfirst⟩ := (h.mem_iff his).mp hi'
      exact ⟨i, hi, i', hfirst, hchain⟩

/-- **A fixed number of steps** follows the chains of that length. -/
theorem leads_steps (h : Leads t step R) (n : Nat) : Leads t (steps step n) (Chain R n) := by
  induction n with
  | zero =>
      refine ⟨forward_chain h.forward 0, fun his => his.ascend, ?_⟩
      intro is _ j
      simp [steps, Chain]
  | succ n ih =>
      refine ⟨forward_chain h.forward (n + 1), ?_, ?_⟩
      · intro is his
        rw [steps]
        split
        · exact his.ascend
        · exact ih.ascend (h.within his)
      · intro is his j
        rw [steps]
        split
        · next hstep =>
          constructor
          · exact h.exists_chain his hstep (n + 1)
          · rintro ⟨i, hi, hchain⟩
            exact h.mem_of_chain his hstep hi hchain
        · rw [ih.mem_iff (h.within his)]
          constructor
          · rintro ⟨i', hi', hchain⟩
            obtain ⟨i, hi, hfirst⟩ := (h.mem_iff his).mp hi'
            exact ⟨i, hi, i', hfirst, hchain⟩
          · rintro ⟨i, hi, i', hfirst, hchain⟩
            exact ⟨i', (h.mem_iff his).mpr ⟨i, hi, hfirst⟩, hchain⟩

/-- The places that have been seen, where those that are not fresh have been followed already. -/
structure Seen (t : Text) (R : Nat → Nat → Prop) (fresh seen : Places) : Prop where
  /-- Fresh places have been seen. -/
  fresh_mem : ∀ i ∈ fresh, i ∈ seen
  /-- What a followed place leads to has been seen. -/
  followed : ∀ i ∈ seen, i ∉ fresh → ∀ j, R i j → j ∈ seen
  /-- Fresh places are in the text. -/
  fresh_within : fresh.Within t
  /-- Seen places ascend. -/
  seen_ascend : seen.Ascend

/-- Following the fresh places makes what is new the fresh places, and no place is left that has not
been followed. -/
theorem Seen.next (h : Leads t step R) {fresh seen : Places} (hseen : Seen t R fresh seen) :
    Seen t R (minus (step fresh) seen) (merge seen (minus (step fresh) seen)) ∧
      ∀ i ∈ seen, ∀ j, R i j → j ∈ merge seen (minus (step fresh) seen) := by
  have hwithin := h.within hseen.fresh_within
  have hsublist := minus_sublist (step fresh) seen
  have hnew : (minus (step fresh) seen).Within t :=
    ⟨List.Pairwise.sublist hsublist hwithin.ascend,
      fun i hi => hwithin.le_length i (hsublist.mem hi)⟩
  have hreach : ∀ i ∈ seen, ∀ j, R i j → j ∈ merge seen (minus (step fresh) seen) := by
    intro i hi j hij
    rw [mem_merge, mem_minus hwithin.ascend hseen.seen_ascend]
    by_cases hold : j ∈ seen
    · exact Or.inl hold
    · by_cases hfresh : i ∈ fresh
      · exact Or.inr ⟨(h.mem_iff hseen.fresh_within).mpr ⟨i, hfresh, hij⟩, hold⟩
      · exact absurd (hseen.followed i hi hfresh j hij) hold
  refine ⟨⟨?_, ?_, hnew, ascend_merge hseen.seen_ascend hnew.ascend⟩, hreach⟩
  · intro i hi
    exact mem_merge.mpr (Or.inr hi)
  · intro i hi hold j hij
    rcases mem_merge.mp hi with hi | hi
    · exact hreach i hi j hij
    · exact absurd hi hold

/-- **Up to a number of steps**: the chains up to that length are followed. -/
theorem mem_spread_iff (h : Leads t step R) (n : Nat) {fresh seen : Places}
    (hseen : Seen t R fresh seen) : (spread step n fresh seen).Ascend ∧
      ∀ {j}, j ∈ spread step n fresh seen ↔ ∃ m ≤ n, ∃ i ∈ seen, Chain R m i j := by
  induction n generalizing fresh seen with
  | zero =>
      refine ⟨hseen.seen_ascend, ?_⟩
      intro j
      simp [spread, Chain]
  | succ n ih =>
      obtain ⟨hnext, hreach⟩ := hseen.next h
      rw [spread]
      split
      · next hnil =>
        have hclosed : ∀ i ∈ seen, ∀ j, R i j → j ∈ seen := by
          intro i hi j hij
          have hj := mem_merge.mp (hreach i hi j hij)
          rw [hnil] at hj
          simpa using hj
        refine ⟨hseen.seen_ascend, ?_⟩
        intro j
        constructor
        · intro hj
          exact ⟨0, Nat.zero_le _, j, hj, rfl⟩
        · rintro ⟨m, -, i, hi, hchain⟩
          exact hchain.mem_of_closed hclosed hi
      · obtain ⟨hascend, hmem⟩ := ih hnext
        refine ⟨hascend, ?_⟩
        intro j
        rw [hmem]
        constructor
        · rintro ⟨m, hm, i, hi, hchain⟩
          rcases mem_merge.mp hi with hi | hi
          · exact ⟨m, by omega, i, hi, hchain⟩
          · have hnew := (mem_minus (h.ascend hseen.fresh_within) hseen.seen_ascend).mp hi
            obtain ⟨i₀, hi₀, hstep⟩ := (h.mem_iff hseen.fresh_within).mp hnew.1
            exact ⟨m + 1, by omega, i₀, hseen.fresh_mem i₀ hi₀, i, hstep, hchain⟩
        · rintro ⟨m, hm, i, hi, hchain⟩
          cases m with
          | zero =>
              obtain rfl : j = i := hchain
              exact ⟨0, Nat.zero_le _, j, mem_merge.mpr (Or.inl hi), rfl⟩
          | succ m =>
              obtain ⟨i', hstep, hrest⟩ := hchain
              exact ⟨m, by omega, i', hreach i hi i' hstep, hrest⟩

/-- The rounds that a repetition takes behind the steps that it has to take. -/
def room (t : Text) (min : Nat) (max : Option Nat) : Nat :=
  match max with
  | some n => Nat.min (n - min) (t.length + 1)
  | none => t.length + 1

/-- **A repetition** follows the chains whose length is in its bounds. Rounds beyond the places of the
text would lead nowhere else. -/
theorem leads_times (h : Leads t step R) (min : Nat) (max : Option Nat) :
    Leads t (fun is => spread step (room t min max) (steps step min is) (steps step min is))
      fun i j => ∃ n, min ≤ n ∧ (∀ m, max = some m → n - min ≤ m - min) ∧ Chain R n i j := by
  have hseen : ∀ {is : Places}, is.Within t → Seen t R (steps step min is) (steps step min is) := by
    intro is his
    have hfirst := (leads_steps h min).within his
    exact ⟨fun i hi => hi, fun i hi hnot => absurd hi hnot, hfirst, hfirst.ascend⟩
  refine ⟨⟨?_, ?_⟩, fun his => (mem_spread_iff h _ (hseen his)).1, ?_⟩
  · rintro i j ⟨n, -, -, hchain⟩
    exact (forward_chain h.forward n).le hchain
  · rintro i j ⟨n, -, -, hchain⟩ hi
    exact (forward_chain h.forward n).le_length hchain hi
  · intro is his j
    rw [(mem_spread_iff h _ (hseen his)).2]
    constructor
    · rintro ⟨m, hm, i', hi', hmore⟩
      obtain ⟨i, hi, hfirst⟩ := ((leads_steps h min).mem_iff his).mp hi'
      refine ⟨i, hi, min + m, Nat.le_add_right _ _, ?_, hfirst.append hmore⟩
      rintro n rfl
      have hroom : m ≤ n - min := Nat.le_trans hm (Nat.min_le_left _ _)
      omega
    · rintro ⟨i, hi, n, hmin, hmax, hchain⟩
      obtain ⟨more, rfl⟩ := Nat.exists_eq_add_of_le hmin
      obtain ⟨i', hfirst, hrest⟩ := hchain.split
      obtain ⟨m, hmore, hshort, hrest'⟩ := hrest.shorten h.forward
      have hi' := ((leads_steps h min).mem_iff his).mpr ⟨i, hi, hfirst⟩
      have hend := (forward_chain h.forward more).le_length hrest
        (((leads_steps h min).within his).le_length i' hi')
      refine ⟨m, ?_, i', hi', hrest'⟩
      cases max with
      | none =>
          change m ≤ t.length + 1
          omega
      | some k =>
          have hbound := hmax k rfl
          exact Nat.le_min.mpr ⟨by omega, by omega⟩

end

/-! ### Patterns on sets of places -/

/-- The places behind the characters of a set. -/
theorem advance_char (set : CharSet) (t : Text) (is : Places) :
    (char set).advance t.toArray is =
      is.filterMap fun i => t[i]?.bind fun c => if set.holds c then some (i + 1) else none := by
  rw [advance]
  congr 1
  funext i
  rw [List.getElem?_toArray]
  cases t[i]? with
  | none => rfl
  | some c => rfl

/-- A set of characters leads from each place behind the character there, if it holds it. -/
theorem leads_char (t : Text) (set : CharSet) :
    Leads t ((char set).advance t.toArray) (Matches t (char set)) := by
  have hstep : ∀ {i j : Nat},
      (t[i]?.bind fun c => if set.holds c then some (i + 1) else none) = some j ↔
        Matches t (char set) i j := by
    intro i j
    simp only [Matches, Option.bind_eq_some_iff, Option.ite_none_right_eq_some, Option.some.injEq]
    constructor
    · rintro ⟨c, hc, hset, rfl⟩
      exact ⟨⟨c, hc, hset⟩, rfl⟩
    · rintro ⟨⟨c, hc, hset⟩, rfl⟩
      exact ⟨c, hc, hset, rfl⟩
  refine ⟨forward_matches t _, ?_, ?_⟩
  · intro is his
    rw [advance_char]
    refine List.Pairwise.filterMap _ ?_ his.ascend
    intro i k hik i' hi' k' hk'
    obtain ⟨-, rfl⟩ := hstep.mp hi'
    obtain ⟨-, rfl⟩ := hstep.mp hk'
    omega
  · intro is _ j
    rw [advance_char, List.mem_filterMap]
    exact exists_congr fun i => and_congr_right fun _ => hstep

/-- A test of a place leads from each place where it holds to that place. -/
theorem leads_place (t : Text) (p : Place) :
    Leads t ((place p).advance t.toArray) (Matches t (place p)) := by
  refine ⟨forward_matches t _, fun his => List.Pairwise.filter _ his.ascend, ?_⟩
  intro is _ j
  simp only [advance, List.mem_filter, List.getElem?_toArray, Matches]
  constructor
  · rintro ⟨hj, hholds⟩
    exact ⟨j, hj, hholds, rfl⟩
  · rintro ⟨i, hi, hholds, rfl⟩
    exact ⟨hi, hholds⟩

section

variable {t : Text} {p q : Pattern}

/-- Two patterns, one behind the other, lead where the second leads from where the first does. -/
theorem leads_seq (hp : Leads t (p.advance t.toArray) (Matches t p))
    (hq : Leads t (q.advance t.toArray) (Matches t q)) :
    Leads t ((seq p q).advance t.toArray) (Matches t (seq p q)) := by
  refine ⟨forward_matches t _, fun his => hq.ascend (hp.within his), ?_⟩
  intro is his k
  rw [advance, hq.mem_iff (hp.within his)]
  constructor
  · rintro ⟨j, hj, hjk⟩
    obtain ⟨i, hi, hij⟩ := (hp.mem_iff his).mp hj
    exact ⟨i, hi, j, hij, hjk⟩
  · rintro ⟨i, hi, j, hij, hjk⟩
    exact ⟨j, (hp.mem_iff his).mpr ⟨i, hi, hij⟩, hjk⟩

/-- A choice leads where either of its patterns does. -/
theorem leads_alt (hp : Leads t (p.advance t.toArray) (Matches t p))
    (hq : Leads t (q.advance t.toArray) (Matches t q)) :
    Leads t ((alt p q).advance t.toArray) (Matches t (alt p q)) := by
  refine ⟨forward_matches t _, fun his => ascend_merge (hp.ascend his) (hq.ascend his), ?_⟩
  intro is his j
  rw [advance, mem_merge, hp.mem_iff his, hq.mem_iff his, ← exists_or]
  refine exists_congr fun i => ?_
  rw [← and_or_left]
  rfl

end

/-- **A pattern leads to a place** from some places exactly if it matches from one of them up to it. -/
theorem leads_advance (t : Text) (p : Pattern) :
    Leads t (p.advance t.toArray) (Matches t p) := by
  induction p with
  | empty =>
      refine ⟨forward_matches t _, fun his => his.ascend, ?_⟩
      intro is _ j
      simp [advance, Matches]
  | char set => exact leads_char t set
  | place p => exact leads_place t p
  | seq p q ihp ihq => exact leads_seq ihp ihq
  | alt p q ihp ihq => exact leads_alt ihp ihq
  | times min max p ih =>
      have hroom : advance t.toArray (times min max p) = fun is =>
          spread (p.advance t.toArray) (room t min max)
            (steps (p.advance t.toArray) min is) (steps (p.advance t.toArray) min is) := by
        funext is
        cases max with
        | none => rfl
        | some n => rfl
      rw [hroom]
      exact leads_times ih min max

/-- Does the pattern match the text from the place on? -/
def matchesAt (p : Pattern) (t : Text) (i : Nat) : Bool := !(p.advance t.toArray [i]).isEmpty

/-- **A pattern is found to match** at a place exactly if it matches from there to some place. -/
theorem matchesAt_iff {p : Pattern} {t : Text} {i : Nat} (hi : i ≤ t.length) :
    p.matchesAt t i = true ↔ ∃ j, Matches t p i j := by
  have hwithin : Places.Within t [i] :=
    ⟨List.pairwise_singleton _ _, fun k hk => (List.mem_singleton.mp hk).symm ▸ hi⟩
  rw [matchesAt, Bool.not_eq_true', List.isEmpty_eq_false_iff_exists_mem]
  refine exists_congr fun j => ?_
  rw [(leads_advance t p).mem_iff hwithin]
  simp only [List.mem_singleton, exists_eq_left]

/-- **A pattern occurs in a text** if it matches from some place on. -/
theorem occursIn_iff {p : Pattern} {t : Text} :
    p.occursIn t = true ↔ ∃ i ≤ t.length, ∃ j, Matches t p i j := by
  have hwithin : Places.Within t (List.range (t.length + 1)) :=
    ⟨List.pairwise_lt_range, fun i hi => Nat.le_of_lt_succ (List.mem_range.mp hi)⟩
  rw [occursIn, Bool.not_eq_true', List.isEmpty_eq_false_iff_exists_mem]
  simp only [(leads_advance t p).mem_iff hwithin, List.mem_range, Nat.lt_succ_iff]
  constructor
  · rintro ⟨j, i, hi, h⟩
    exact ⟨i, hi, j, h⟩
  · rintro ⟨i, hi, j, h⟩
    exact ⟨j, i, hi, h⟩

end PageLint.Pattern
