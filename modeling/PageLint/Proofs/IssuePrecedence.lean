import PageLint.Proofs.Silencing

/-!
# The precedence of known issues

Several issues may match one cell: the same key may be declared twice, and an issue for all dates or
for all entities matches what a closer one matches. The issues that match a cell fall into four
classes by what they are about (`KnownIssue.Scope`), the cell itself first and its column last. A
look-up answers with the first issue that was declared in the closest class that is not empty.

A cell may itself stand for all dates or all entities. Two scopes then hold the same issues, and the
closer one answers for both.

## Main results

* `KnownIssues.find?_ofList_eq`: a look-up searches the declared issues scope by scope.
* `KnownIssues.find?_precedence`: **which issue a look-up answers with**, and when it has none.
-/

namespace PageLint

namespace KnownIssue

/-- What an issue that matches a cell is about. -/
inductive Scope where
  /-- The date and the entity of the cell. -/
  | cell
  /-- The date of the cell, for all entities. -/
  | date
  /-- The entity of the cell, for all dates. -/
  | entity
  /-- All dates and all entities. -/
  | column
  deriving DecidableEq, Repr

/-- The scopes, the closest to a cell first. -/
def Scope.all : List Scope := [cell, date, entity, column]

/-- Every scope is listed. -/
theorem Scope.mem_all (s : Scope) : s ∈ all := by cases s <;> decide

/-- Is the issue about a cell in this scope: has it the file and the column of the cell, and its date
and its entity or the wildcard as the scope says? -/
def InScope (k : KnownIssue) (s : Scope) (file date entity column : String) : Prop :=
  k.file = file ∧ k.column = column ∧
    match s with
    | .cell => k.date = date ∧ k.entity = entity
    | .date => k.date = date ∧ k.entity = wildcard
    | .entity => k.date = wildcard ∧ k.entity = entity
    | .column => k.date = wildcard ∧ k.entity = wildcard

/-- The key under which the issues of a scope are filed. -/
def Scope.key (file date entity column : String) : Scope → Key
  | cell => (file, date, entity, column)
  | .date => (file, date, wildcard, column)
  | .entity => (file, wildcard, entity, column)
  | .column => (file, wildcard, wildcard, column)

/-- The issues of a scope are those under its key. -/
theorem key_eq_iff {k : KnownIssue} {s : Scope} {file date entity column : String} :
    k.key = s.key file date entity column ↔ k.InScope s file date entity column := by
  cases s <;> simp only [KnownIssue.key, Scope.key, InScope, Prod.mk.injEq]
  all_goals
    constructor
    · rintro ⟨hfile, hdate, hentity, hcolumn⟩
      exact ⟨hfile, hcolumn, hdate, hentity⟩
    · rintro ⟨hfile, hcolumn, hdate, hentity⟩
      exact ⟨hfile, hdate, hentity, hcolumn⟩

end KnownIssue

namespace KnownIssues

open KnownIssue

variable (issues : List KnownIssue) (file date entity column : String)

/-- A look-up goes through the scopes, the closest first, and searches the issues in the order in
which they were declared. -/
theorem find?_ofList_eq :
    (ofList issues).find? file date entity column = Scope.all.findSome? fun s =>
      issues.find? (·.key == s.key file date entity column) := by
  have hkeys : keys file date entity column =
      Scope.all.map (Scope.key file date entity column) := rfl
  simp only [find?, ofList, hkeys, List.findSome?_map, getElem?_indexOf, Function.comp_def]

variable {issues file date entity column}

/-- The first issue of a scope is the one that was declared first. -/
theorem find?_key_eq_some_iff {s : Scope} {k : KnownIssue} :
    issues.find? (·.key == s.key file date entity column) = some k ↔
      k.InScope s file date entity column ∧ ∃ before after, issues = before ++ k :: after ∧
        ∀ j ∈ before, ¬j.InScope s file date entity column := by
  simp only [List.find?_eq_some_iff_append, beq_iff_eq, key_eq_iff, Bool.not_eq_true',
    beq_eq_false_iff_ne, ne_eq]

/-- A scope has no first issue when it has none. -/
theorem find?_key_eq_none_iff {s : Scope} :
    issues.find? (·.key == s.key file date entity column) = none ↔
      ∀ j ∈ issues, ¬j.InScope s file date entity column := by
  simp only [List.find?_eq_none, beq_iff_eq, key_eq_iff]

variable (issues file date entity column)

/-- **The closest scope decides, and in it the first declaration.** A look-up answers with an issue
exactly when the issue is the first that was declared in its scope and no issue is in a closer scope.
It has no answer exactly when no issue is in any scope. Nothing is assumed of the list or of the cell:
keys may be declared more than once, and the date or the entity of the cell may be the wildcard. -/
theorem find?_precedence :
    (∀ k, (ofList issues).find? file date entity column = some k ↔
      ∃ closer s wider, Scope.all = closer ++ s :: wider ∧
        (∀ s' ∈ closer, ∀ j ∈ issues, ¬j.InScope s' file date entity column) ∧
        k.InScope s file date entity column ∧ ∃ before after, issues = before ++ k :: after ∧
          ∀ j ∈ before, ¬j.InScope s file date entity column) ∧
    ((ofList issues).find? file date entity column = none ↔
      ∀ s, ∀ j ∈ issues, ¬j.InScope s file date entity column) := by
  rw [find?_ofList_eq]
  constructor
  · intro k
    simp only [List.findSome?_eq_some_iff, find?_key_eq_some_iff, find?_key_eq_none_iff]
    constructor
    · rintro ⟨closer, s, wider, hall, hfirst, hnone⟩
      exact ⟨closer, s, wider, hall, hnone, hfirst⟩
    · rintro ⟨closer, s, wider, hall, hnone, hfirst⟩
      exact ⟨closer, s, wider, hall, hfirst, hnone⟩
  · simp only [List.findSome?_eq_none_iff, find?_key_eq_none_iff]
    exact ⟨fun h s => h s s.mem_all, fun h s _ => h s⟩

end KnownIssues

end PageLint
