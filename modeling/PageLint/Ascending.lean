/-!
# Ascending lists

Lists without repetitions in ascending order, as the form of finite sets that are printed or walked
through in order.

## Main results

* `Ascending.mem_ofList`: `Ascending.ofList` keeps exactly the elements of a list.
-/

namespace PageLint.Ascending

variable {α : Type} [LT α] [DecidableLT α]

/-- Puts `a` into an ascending list, unless it is there already. -/
def insert (a : α) : List α → List α
  | [] => [a]
  | b :: l =>
    if a < b then a :: b :: l
    else if b < a then b :: insert a l
    else b :: l

/-- The elements of a list in ascending order, each once. -/
def ofList (l : List α) : List α := l.foldr insert []

/-- Puts a value under a key into a list that ascends by its keys, in the place of the value that
was there. -/
def put {β : Type} (key : α) (value : β) : List (α × β) → List (α × β)
  | [] => [(key, value)]
  | (k, v) :: l =>
    if key < k then (key, value) :: (k, v) :: l
    else if k < key then (k, v) :: put key value l
    else (key, value) :: l

/-- An insertion adds its element and keeps the others. -/
theorem mem_insert (tri : ∀ a b : α, ¬a < b → ¬b < a → a = b) {x a : α} {l : List α} :
    x ∈ insert a l ↔ x = a ∨ x ∈ l := by
  induction l with
  | nil => simp [insert]
  | cons b l ih =>
    simp only [insert]
    split
    · simp
    · split
      · simp only [List.mem_cons, ih]
        exact ⟨fun h => by rcases h with h | h | h <;> simp [h],
          fun h => by rcases h with h | h | h <;> simp [h]⟩
      · next h1 h2 =>
        have := tri a b h1 h2
        simp [this]

/-- An ascending list has the elements of the list that it is made from. -/
theorem mem_ofList (tri : ∀ a b : α, ¬a < b → ¬b < a → a = b) {x : α} {l : List α} :
    x ∈ ofList l ↔ x ∈ l := by
  induction l with
  | nil => simp [ofList]
  | cons a l ih =>
    have : ofList (a :: l) = insert a (ofList l) := rfl
    rw [this, mem_insert tri, ih, List.mem_cons]

end PageLint.Ascending
