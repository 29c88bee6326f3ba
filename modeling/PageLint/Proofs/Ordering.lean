import Mathlib.Data.List.Basic
import PageLint.Ascending

/-!
# Ordered lists

What an order determines about a list. A strictly ascending list is determined by its elements; a
list that ascends by a key is determined by the sublists of its elements with one key, and sorting
by the key keeps each of these sublists as it is.

## Main results

* `filterMap_eq_map_filter`: filtering a list keeps its order, so a list of notices about some
  elements is the image of these elements.
* `Ascending.eq_of_mem_iff`: an ascending list is determined by its elements.
* `Ascending.pairwise_ofList`: `Ascending.ofList` is ascending, and has the elements of the list
  (`Ascending.mem_ofList_iff`).
* `KeyOrder.filter_mergeSort`: **stability** — sorting by a key keeps the order of the elements
  with one key.
* `KeyOrder.eq_of_filter_eq`: a list that ascends by a key is determined by its elements with each
  key, in order.
-/

namespace PageLint

/-- What a partial function gives on a list is the image of the elements for which it is defined. -/
theorem filterMap_eq_map_filter {α β : Type} {p : α → Prop} [DecidablePred p] {f : α → β}
    {g : α → Option β} (h : ∀ a, g a = if p a then some (f a) else none) (l : List α) :
    l.filterMap g = (l.filter p).map f := by
  rw [← List.filterMap_eq_map, List.filterMap_filter]
  refine List.filterMap_congr fun a _ => ?_
  simp [h]

namespace Ascending

/-- A list that ascends in an asymmetric order is determined by its elements. -/
theorem eq_of_mem_iff {β : Type} {r : β → β → Prop} (asymm : ∀ a b, r a b → ¬r b a)
    {l₁ l₂ : List β} (h₁ : l₁.Pairwise r) (h₂ : l₂.Pairwise r) (h : ∀ x, x ∈ l₁ ↔ x ∈ l₂) :
    l₁ = l₂ := by
  have hne : ∀ {a b : β}, r a b → a ≠ b := by
    rintro a b hab rfl
    exact asymm a a hab hab
  have hperm : l₁.Perm l₂ :=
    (List.perm_ext_iff_of_nodup (h₁.imp hne) (h₂.imp hne)).mpr h
  refine hperm.eq_of_pairwise ?_ h₁ h₂
  intro a b _ _ hab hba
  exact absurd hba (asymm a b hab)

/-- Two elements of an ascending list that are not in order are the same. -/
theorem eq_of_not_rel {β : Type} {r : β → β → Prop} {l : List β} (h : l.Pairwise r) {a b : β}
    (ha : a ∈ l) (hb : b ∈ l) (hab : ¬r a b) (hba : ¬r b a) : a = b := by
  induction l with
  | nil => exact absurd ha List.not_mem_nil
  | cons c l ih =>
      obtain ⟨hc, hl⟩ := List.pairwise_cons.mp h
      rcases List.mem_cons.mp ha with rfl | ha'
      · rcases List.mem_cons.mp hb with rfl | hb'
        · rfl
        · exact absurd (hc b hb') hab
      · rcases List.mem_cons.mp hb with rfl | hb'
        · exact absurd (hc a ha') hba
        · exact ih hl ha' hb'

variable {α : Type} [LT α] [DecidableLT α] [LE α] [Std.IsLinearOrder α] [Std.LawfulOrderLT α]

/-- Insertion adds exactly one element. -/
theorem mem_insert_iff {x a : α} {l : List α} : x ∈ insert a l ↔ x = a ∨ x ∈ l := by
  refine mem_insert ?_
  intro b c hbc hcb
  exact Std.le_antisymm (Std.not_lt.mp hcb) (Std.not_lt.mp hbc)

/-- Insertion keeps a list ascending. -/
theorem pairwise_insert {a : α} {l : List α} (h : l.Pairwise (· < ·)) :
    (insert a l).Pairwise (· < ·) := by
  induction l with
  | nil => exact List.pairwise_singleton _ a
  | cons b l ih =>
      obtain ⟨hb, hl⟩ := List.pairwise_cons.mp h
      rw [insert]
      split
      · next hab =>
        refine List.pairwise_cons.mpr ⟨?_, h⟩
        intro c hc
        rcases List.mem_cons.mp hc with rfl | hc
        · exact hab
        · exact Std.lt_trans hab (hb c hc)
      · split
        · next hba =>
          refine List.pairwise_cons.mpr ⟨?_, ih hl⟩
          intro c hc
          rcases mem_insert_iff.mp hc with rfl | hc
          · exact hba
          · exact hb c hc
        · exact h

/-- The elements of a list in ascending order do ascend. -/
theorem pairwise_ofList (l : List α) : (ofList l).Pairwise (· < ·) := by
  induction l with
  | nil => exact List.Pairwise.nil
  | cons a l ih => exact pairwise_insert ih

/-- `Ascending.ofList` keeps exactly the elements of a list. -/
theorem mem_ofList_iff {x : α} {l : List α} : x ∈ ofList l ↔ x ∈ l := by
  refine mem_ofList ?_
  intro b c hbc hcb
  exact Std.le_antisymm (Std.not_lt.mp hcb) (Std.not_lt.mp hbc)

omit [DecidableLT α] in
/-- A list that ascends by `<` is determined by its elements. -/
theorem eq_of_pairwise_lt {l₁ l₂ : List α} (h₁ : l₁.Pairwise (· < ·)) (h₂ : l₂.Pairwise (· < ·))
    (h : ∀ x, x ∈ l₁ ↔ x ∈ l₂) : l₁ = l₂ :=
  eq_of_mem_iff (fun _ _ hab hba => Std.lt_irrefl (Std.lt_trans hab hba)) h₁ h₂ h

end Ascending

/-! ### Lists that ascend by a key -/

namespace KeyOrder

variable {α κ : Type} [LE κ] [Std.IsLinearOrder κ] (key : α → κ)

/-- The comparison of keys is transitive. -/
theorem le_trans [DecidableLE κ] (a b c : α) (hab : decide (key a ≤ key b) = true)
    (hbc : decide (key b ≤ key c) = true) : decide (key a ≤ key c) = true := by
  rw [decide_eq_true_eq] at hab hbc ⊢
  exact Std.le_trans hab hbc

/-- The comparison of keys is total. -/
theorem le_total [DecidableLE κ] (a b : α) :
    (decide (key a ≤ key b) || decide (key b ≤ key a)) = true := by
  rw [Bool.or_eq_true, decide_eq_true_eq, decide_eq_true_eq]
  exact Std.le_total

/-- Sorting by a key gives a list that ascends by it. -/
theorem pairwise_mergeSort [DecidableLE κ] (l : List α) :
    (l.mergeSort fun a b => key a ≤ key b).Pairwise fun a b => key a ≤ key b := by
  refine (List.pairwise_mergeSort (le_trans key) (le_total key) l).imp ?_
  intro a b hab
  exact of_decide_eq_true hab

/-- **Stability.** Sorting by a key keeps the elements with one key in their order. -/
theorem filter_mergeSort [DecidableLE κ] [DecidableEq κ] (l : List α) (k : κ) :
    (l.mergeSort fun a b => key a ≤ key b).filter (key · == k) = l.filter (key · == k) := by
  have hone : (l.filter (key · == k)).Pairwise fun a b => decide (key a ≤ key b) = true := by
    refine List.pairwise_of_forall_mem_list ?_
    intro a ha b hb
    have hak : key a = k := by simpa using (List.mem_filter.mp ha).2
    have hbk : key b = k := by simpa using (List.mem_filter.mp hb).2
    rw [hak, hbk, decide_eq_true_eq]
    exact Std.le_refl k
  have hsub := (List.sublist_mergeSort (le_trans key) (le_total key) hone
    List.filter_sublist).filter (key · == k)
  rw [List.filter_filter] at hsub
  simp only [Bool.and_self] at hsub
  refine (hsub.eq_of_length ?_).symm
  exact ((List.mergeSort_perm l _).filter _).length_eq.symm

variable {key}

/-- In a list that ascends by a key, the first key is the least. -/
theorem head_le_of_filter_ne_nil [DecidableEq κ] {a b : α} {l : List α}
    (h : (a :: l).Pairwise fun a b => key a ≤ key b)
    (hb : (a :: l).filter (key · == key b) ≠ []) : key a ≤ key b := by
  obtain ⟨c, hc⟩ := List.exists_mem_of_ne_nil _ hb
  obtain ⟨hmem, hkey⟩ := List.mem_filter.mp hc
  have hcb : key c = key b := by simpa using hkey
  rcases List.mem_cons.mp hmem with rfl | hmem
  · exact hcb ▸ Std.le_refl _
  · exact hcb ▸ (List.pairwise_cons.mp h).1 c hmem

/-- A list that ascends by a key is determined by its elements with each key, in order. -/
theorem eq_of_filter_eq [DecidableEq κ] {l₁ l₂ : List α} (h₁ : l₁.Pairwise fun a b => key a ≤ key b)
    (h₂ : l₂.Pairwise fun a b => key a ≤ key b)
    (h : ∀ k, l₁.filter (key · == k) = l₂.filter (key · == k)) : l₁ = l₂ := by
  induction l₁ generalizing l₂ with
  | nil =>
      cases l₂ with
      | nil => rfl
      | cons b l₂ => exact absurd (h (key b)) (by simp)
  | cons a l₁ ih =>
      cases l₂ with
      | nil => exact absurd (h (key a)) (by simp)
      | cons b l₂ =>
          have hab : key a = key b := by
            refine Std.le_antisymm (head_le_of_filter_ne_nil h₁ ?_) (head_le_of_filter_ne_nil h₂ ?_)
            · rw [h]; simp
            · rw [← h]; simp
          have hhead := h (key a)
          rw [List.filter_cons_of_pos (by simp), List.filter_cons_of_pos (by simp [hab])] at hhead
          obtain ⟨rfl, -⟩ := List.cons.inj hhead
          rw [ih (List.pairwise_cons.mp h₁).2 (List.pairwise_cons.mp h₂).2 fun k => ?_]
          have hk := h k
          rw [List.filter_cons, List.filter_cons] at hk
          by_cases hak : (key a == k) = true
          · rw [if_pos hak, if_pos hak] at hk
            exact (List.cons.inj hk).2
          · rwa [if_neg hak, if_neg hak] at hk

end KeyOrder

end PageLint
