import PageLint.Markup.QueryBlock
import PageLint.Proofs.Scanning

/-!
# The grammar of query blocks

A query block is an opening fence with `sql`, blanks, a name, a line feed, and text up to the next
fence. Its last character is a backtick, so text without backticks cannot end a block that was open
before it.

## Main results

* `QueryBlock.reader_eq_some_iff`: **the form of a query block**.
* `QueryBlock.ofText_append`: text without backticks behind a text does not change its blocks.
-/

namespace PageLint.QueryBlock

/-- The first fence behind a text that holds none and does not end with a backtick is the one that is
written there. -/
theorem not_fence_infix {inside : Text} (hfree : ¬fence <:+: inside)
    (hlast : inside.getLast? ≠ some '`') : ¬fence <:+: inside ++ fence.dropLast := by
  have hend : ¬['`'] <:+ inside := by
    rintro ⟨front, hfront⟩
    exact hlast (by rw [← hfront, List.getLast?_concat])
  have hone : ¬['`', '`'] ++ ['`'] <:+ inside ++ ['`'] := fun h =>
    hend (List.IsSuffix.trans (List.suffix_append ['`'] ['`']) (List.suffix_append_self_iff.mp h))
  have htwo : ¬['`'] ++ ['`', '`'] <:+ inside ++ ['`', '`'] := fun h =>
    hend (List.suffix_append_self_iff.mp h)
  have hsplit : inside ++ fence.dropLast = inside ++ ['`'] ++ ['`'] := by simp [fence]
  rw [hsplit, List.infix_concat_iff, List.infix_concat_iff]
  rintro (hsuffix | hsuffix | hinfix)
  · rw [List.append_assoc] at hsuffix
    exact htwo hsuffix
  · exact hone hsuffix
  · exact hfree hinfix

/-- What stands at the head of a text is a query block when it has the form of one. -/
theorem reader_eq_some_iff {before : Option Char} {t name body rest : Text} :
    reader before t = some ((name, body), rest) ↔
      ∃ blanks : Text, blanks ≠ [] ∧ (∀ c ∈ blanks, isSpace c = true) ∧
        name ≠ [] ∧ (∀ c ∈ name, isWordChar c = true) ∧ ¬fence <:+: body ++ fence.dropLast ∧
        t = fence ++ ['s', 'q', 'l'] ++
          (blanks ++ (name ++ '\n' :: (body ++ (fence ++ rest)))) := by
  have hfence : fence ≠ [] := by decide
  simp only [reader, bind, Option.bind_eq_some_iff, Prod.exists, Text.after?_eq_some_iff,
    Text.afterBlanks?_eq_some_iff, Text.readWord?_eq_some_iff, Text.splitAt?_eq_some_iff hfence]
  constructor
  · rintro ⟨_, rfl, _, ⟨blanks, hne, hblanks, rfl, -⟩, name', _, ⟨hname, hword, rfl, -⟩, _, rfl,
      body', rest', ⟨rfl, hfirst⟩, hpair⟩
    obtain ⟨⟨rfl, rfl⟩, rfl⟩ : (name' = name ∧ body' = body) ∧ rest' = rest := by
      simpa using hpair
    exact ⟨blanks, hne, hblanks, hname, hword, hfirst, rfl⟩
  · rintro ⟨blanks, hne, hblanks, hname, hword, hfirst, rfl⟩
    have hline : isWordChar '\n' = false := by decide +kernel
    refine ⟨_, rfl, _, ⟨blanks, hne, hblanks, rfl, ?_⟩, name, _, ⟨hname, hword, rfl, ?_⟩, _, rfl,
      body, rest, ⟨rfl, hfirst⟩, rfl⟩
    · intro c hc
      cases name with
      | nil => exact absurd rfl hname
      | cons d name =>
          obtain rfl := Option.some.inj hc
          exact not_isSpace_of_isWordChar (hword d List.mem_cons_self)
    · intro c hc
      obtain rfl := Option.some.inj hc
      exact hline

/-- Text without backticks behind a text does not change what is read at its head. -/
theorem reader_append {before : Option Char} {t u : Text} (hu : '`' ∉ u) :
    reader before (t ++ u) = (reader before t).map fun p => (p.1, p.2 ++ u) := by
  cases hread : reader before t with
  | some p =>
      obtain ⟨⟨name, body⟩, rest⟩ := p
      obtain ⟨blanks, hne, hblanks, hname, hword, hfirst, rfl⟩ := reader_eq_some_iff.mp hread
      refine reader_eq_some_iff.mpr ⟨blanks, hne, hblanks, hname, hword, hfirst, ?_⟩
      simp only [List.append_assoc, List.cons_append]
  | none =>
      cases hread' : reader before (t ++ u) with
      | none => rfl
      | some p =>
          obtain ⟨⟨name, body⟩, rest⟩ := p
          obtain ⟨blanks, hne, hblanks, hname, hword, hfirst, ht⟩ := reader_eq_some_iff.mp hread'
          have hlast : t ++ u = fence ++ ['s', 'q', 'l'] ++
              (blanks ++ (name ++ '\n' :: (body ++ ['`', '`']))) ++ '`' :: rest := by
            rw [ht]
            simp [fence]
          obtain ⟨rest', hblock, -⟩ := Text.exists_of_append_eq hu hlast
          have hform : t = fence ++ ['s', 'q', 'l'] ++
              (blanks ++ (name ++ '\n' :: (body ++ (fence ++ rest')))) := by
            rw [hblock]
            simp [fence]
          have hsome : reader before t = some ((name, body), rest') :=
            reader_eq_some_iff.mpr ⟨blanks, hne, hblanks, hname, hword, hfirst, hform⟩
          rw [hsome] at hread
          cases hread

/-- Nothing in a text without backticks is a query block. -/
theorem reader_eq_none {before : Option Char} {t : Text} (h : '`' ∉ t) :
    reader before t = none := by
  cases hread : reader before t with
  | none => rfl
  | some p =>
      obtain ⟨⟨name, body⟩, rest⟩ := p
      obtain ⟨blanks, -, -, -, -, -, rfl⟩ := reader_eq_some_iff.mp hread
      exact absurd List.mem_cons_self h

/-- **The query blocks of a text that is continued** without backticks are its own. -/
theorem ofText_append (t : Text) {u : Text} (hu : '`' ∉ u) : ofText (t ++ u) = ofText t := by
  have hnone : ∀ before s, s <:+ u → s ≠ [] → reader before s = none := by
    intro before s hs _
    exact reader_eq_none fun hmem => hu (hs.subset hmem)
  rw [ofText, ofText, Text.hits, Text.hits,
    Text.hitsFrom_append (fun _ _ _ _ => reader_append hu) [] (Nat.zero_le _),
    Text.hitsFrom_eq_nil hnone, List.append_nil, List.map_map]
  rfl

end PageLint.QueryBlock
