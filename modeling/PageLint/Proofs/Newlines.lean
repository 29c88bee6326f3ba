import Mathlib.Logic.Function.Iterate
import PageLint.PageRule
import PageLint.Proofs.BuiltinCheckers

/-!
# Line ends

`Page.normalizeNewlines` takes the carriage return out of every pair of carriage return and line
feed. It reads a text from the left, so a text is taken apart into such pairs and other characters
(`Page.crlf_induction`), and it looks one character ahead, so what is appended to a text matters
only to a carriage return at its end.

A text may be spelled with either line end, also with both: `Page.Respelled t u` says that `u` is `t`
with any of its line feeds written as a pair. For a text without pairs these are exactly the texts
that are read as it.

The text is read once, and what a pair leaves can form a pair with the carriage returns in front of it.
So each reading takes one carriage return off those in front of a line feed (`Page.feedBehind n` is a
line feed behind `n` of them), and the result is free of pairs only where no line feed had two.

## Main results

* `Page.normalizeNewlines_append`: unifying line ends **goes through an append** of a text without
  carriage returns, up to a last carriage return.
* `Page.exists_of_normalizeNewlines_eq`: every character of the result but a line feed comes from
  the text, with what follows it.
* `Page.normalizeNewlines_eq_iff`: the spellings of a text are the texts that are read as it.
* `Page.normalizeNewlines_iterate`: **what a number of readings leaves**, and when a further one changes
  nothing.
* `Checker.checkPage_respelled`: **line ends do not change what is found** on a page.
-/

namespace PageLint

namespace Page

/-- Is the text a carriage return in front of a line feed, `c` being its first character? -/
def IsPair (c : Char) (t : Text) : Prop := c = '\r' ∧ t.head? = some '\n'

/-- The empty text has no line ends to change. -/
@[simp] theorem normalizeNewlines_nil : normalizeNewlines [] = [] := rfl

/-- A pair becomes a line feed. -/
@[simp] theorem normalizeNewlines_pair (t : Text) :
    normalizeNewlines ('\r' :: '\n' :: t) = '\n' :: normalizeNewlines t := rfl

/-- A character that begins no pair stays. -/
theorem normalizeNewlines_cons {c : Char} {t : Text} (h : ¬IsPair c t) :
    normalizeNewlines (c :: t) = c :: normalizeNewlines t := by
  rw [normalizeNewlines, Text.replace, Text.replaceFrom, if_neg]
  · rfl
  · intro hstart
    obtain ⟨rest, hrest⟩ := Text.startsWith_iff.mp hstart
    obtain ⟨rfl, rfl⟩ := List.cons.inj hrest
    exact h ⟨rfl, rfl⟩

/-- Induction over the pairs and the other characters of a text. -/
@[elab_as_elim] theorem crlf_induction {motive : Text → Prop} (nil : motive [])
    (pair : ∀ t, motive t → motive ('\r' :: '\n' :: t))
    (cons : ∀ c t, ¬IsPair c t → motive t → motive (c :: t)) (t : Text) : motive t := by
  induction h : t.length using Nat.strongRecOn generalizing t with
  | ind n ih =>
      subst h
      cases t with
      | nil => exact nil
      | cons c t =>
          by_cases hpair : IsPair c t
          · obtain ⟨rfl, hhead⟩ := hpair
            obtain ⟨t, rfl⟩ := List.head?_eq_some_iff.mp hhead
            exact pair t (ih t.length (by simp only [List.length_cons]; omega) t rfl)
          · exact cons c t hpair (ih t.length (Nat.lt_succ_self _) t rfl)

/-- A text without carriage returns has no pairs. -/
theorem normalizeNewlines_of_notMem {t : Text} (h : '\r' ∉ t) : normalizeNewlines t = t := by
  induction t with
  | nil => rfl
  | cons c t ih =>
      have hc : '\r' ≠ c := List.ne_of_not_mem_cons h
      have ht : '\r' ∉ t := List.not_mem_of_not_mem_cons h
      rw [normalizeNewlines_cons fun hpair => hc hpair.1.symm, ih ht]

/-- Behind a text that is appended without carriage returns, line ends are as before: at most a last
carriage return is lost to a line feed behind it. -/
theorem normalizeNewlines_append (t : Text) {u : Text} (hu : '\r' ∉ u) :
    normalizeNewlines (t ++ u) = normalizeNewlines t ++ u ∨
      ∃ body, normalizeNewlines t = body ++ ['\r'] ∧ normalizeNewlines (t ++ u) = body ++ u := by
  induction t using crlf_induction with
  | nil => exact Or.inl (normalizeNewlines_of_notMem hu)
  | pair t ih =>
      rcases ih with h | ⟨body, hbody, h⟩
      · refine Or.inl ?_
        rw [normalizeNewlines_pair, List.cons_append, List.cons_append, normalizeNewlines_pair, h]
        rfl
      · refine Or.inr ⟨'\n' :: body, ?_, ?_⟩
        · rw [normalizeNewlines_pair, hbody, List.cons_append]
        · rw [List.cons_append, List.cons_append, normalizeNewlines_pair, h, List.cons_append]
  | cons c t hpair ih =>
      rw [normalizeNewlines_cons hpair, List.cons_append]
      by_cases hpair' : IsPair c (t ++ u)
      · obtain ⟨rfl, hhead⟩ := hpair'
        cases t with
        | nil =>
            obtain ⟨u, rfl⟩ := List.head?_eq_some_iff.mp hhead
            refine Or.inr ⟨[], rfl, ?_⟩
            have hrest : '\r' ∉ u := fun hmem => hu (List.mem_cons_of_mem _ hmem)
            rw [List.nil_append, normalizeNewlines_pair, normalizeNewlines_of_notMem hrest]
        | cons d t => exact absurd ⟨rfl, hhead⟩ hpair
      · rw [normalizeNewlines_cons hpair']
        rcases ih with h | ⟨body, hbody, h⟩
        · exact Or.inl (by rw [h, List.cons_append])
        · exact Or.inr ⟨c :: body, by rw [hbody, List.cons_append], by rw [h, List.cons_append]⟩

/-- A character that is neither of the two line ends is in the result when it is in the text. -/
theorem mem_normalizeNewlines {c : Char} {t : Text} (hc : c ≠ '\r') (h : c ∈ t) :
    c ∈ normalizeNewlines t := by
  induction t using crlf_induction with
  | nil => exact h
  | pair t ih =>
      rw [normalizeNewlines_pair]
      rcases List.mem_cons.mp h with rfl | h
      · exact absurd rfl hc
      rcases List.mem_cons.mp h with rfl | h
      · exact List.mem_cons_self
      · exact List.mem_cons_of_mem _ (ih h)
  | cons d t hpair ih =>
      rw [normalizeNewlines_cons hpair]
      rcases List.mem_cons.mp h with rfl | h
      · exact List.mem_cons_self
      · exact List.mem_cons_of_mem _ (ih h)

/-- A character of the result that is no line feed comes from the text, and what follows it from
what follows it there. -/
theorem exists_of_normalizeNewlines_eq {c : Char} {t before after : Text} (hc : c ≠ '\n')
    (h : normalizeNewlines t = before ++ c :: after) :
    ∃ before' after', t = before' ++ c :: after' ∧ normalizeNewlines after' = after := by
  induction t using crlf_induction generalizing before with
  | nil => exact absurd h.symm (by simp)
  | pair t ih =>
      rw [normalizeNewlines_pair] at h
      cases before with
      | nil => exact absurd (List.cons.inj h).1.symm hc
      | cons b before =>
          obtain ⟨before', after', rfl, hafter⟩ := ih (List.cons.inj h).2
          exact ⟨'\r' :: '\n' :: before', after', rfl, hafter⟩
  | cons d t hpair ih =>
      rw [normalizeNewlines_cons hpair] at h
      cases before with
      | nil =>
          obtain ⟨rfl, hafter⟩ := List.cons.inj h
          exact ⟨[], t, rfl, hafter⟩
      | cons b before =>
          obtain ⟨before', after', rfl, hafter⟩ := ih (List.cons.inj h).2
          exact ⟨d :: before', after', rfl, hafter⟩

/-! ### Spellings -/

/-- `Respelled t u`: the text `u` is `t` with any of its line feeds, also none or all, written as a
carriage return and a line feed. -/
inductive Respelled : Text → Text → Prop where
  /-- The end of the text. -/
  | nil : Respelled [] []
  /-- A character that is written as it is, which may be a line feed. -/
  | char (c : Char) {t u : Text} : Respelled t u → Respelled (c :: t) (c :: u)
  /-- A line feed that is written as a pair. -/
  | pair {t u : Text} : Respelled t u → Respelled ('\n' :: t) ('\r' :: '\n' :: u)

/-- A text is a spelling of itself. -/
theorem Respelled.refl (t : Text) : Respelled t t := by
  induction t with
  | nil => exact Respelled.nil
  | cons c t ih => exact Respelled.char c ih

/-- A text is a spelling of what it is read as. -/
theorem respelled_normalizeNewlines (u : Text) : Respelled (normalizeNewlines u) u := by
  induction u using crlf_induction with
  | nil => exact Respelled.nil
  | pair u ih =>
      rw [normalizeNewlines_pair]
      exact Respelled.pair ih
  | cons c u hpair ih =>
      rw [normalizeNewlines_cons hpair]
      exact Respelled.char c ih

/-- Every spelling of a text without pairs is read as the text. -/
theorem Respelled.normalizeNewlines_eq {t u : Text} (h : Respelled t u)
    (ht : ¬['\r', '\n'] <:+: t) : normalizeNewlines u = t := by
  induction h with
  | nil => rfl
  | @char c t u h ih =>
      have htail : ¬['\r', '\n'] <:+: t := fun hinfix => ht (List.infix_cons hinfix)
      have hpair : ¬IsPair c u := by
        rintro ⟨rfl, hhead⟩
        cases h with
        | nil => cases hhead
        | @char d t u h =>
            obtain rfl := Option.some.inj hhead
            exact ht (List.prefix_append ['\r', '\n'] t).isInfix
        | pair h => cases hhead
      rw [normalizeNewlines_cons hpair, ih htail]
  | @pair t u h ih =>
      have htail : ¬['\r', '\n'] <:+: t := fun hinfix => ht (List.infix_cons hinfix)
      rw [normalizeNewlines_pair, ih htail]

/-- **The spellings of a text without pairs** are the texts that are read as it. -/
theorem normalizeNewlines_eq_iff {t u : Text} (ht : ¬['\r', '\n'] <:+: t) :
    normalizeNewlines u = t ↔ Respelled t u :=
  ⟨fun h => h ▸ respelled_normalizeNewlines u, fun h => h.normalizeNewlines_eq ht⟩

/-! ### Readings one behind the other -/

/-- A line feed behind `n` carriage returns. -/
def feedBehind (n : Nat) : Text := List.replicate n '\r' ++ ['\n']

/-- One more carriage return stands in front of the others. -/
theorem feedBehind_succ (n : Nat) : feedBehind (n + 1) = '\r' :: feedBehind n := by
  rw [feedBehind, List.replicate_succ, List.cons_append, feedBehind]

/-- The line feed is one character behind the carriage returns. -/
theorem length_feedBehind (n : Nat) : (feedBehind n).length = n + 1 := by
  rw [feedBehind, List.length_append, List.length_replicate, List.length_singleton]

/-- A line feed is at the head of what is read where a pair is at the head of the text, if no line feed
is. -/
theorem feed_prefix_normalizeNewlines_iff {t : Text} (hfeed : t.head? ≠ some '\n') :
    feedBehind 0 <+: normalizeNewlines t ↔ feedBehind 1 <+: t := by
  cases t using crlf_induction with
  | nil => simp [feedBehind]
  | pair t => simp [feedBehind]
  | cons c t hpair =>
      rw [normalizeNewlines_cons hpair]
      constructor
      · intro h
        obtain ⟨rfl, -⟩ := List.cons_prefix_cons.mp h
        exact absurd rfl hfeed
      · intro h
        obtain ⟨rfl, rest, rfl⟩ := List.cons_prefix_cons.mp h
        exact absurd ⟨rfl, rfl⟩ hpair

/-- A text that begins with carriage returns and a line feed begins with a return more before it is
read. -/
theorem feedBehind_prefix_normalizeNewlines_iff {n : Nat} {t : Text} :
    feedBehind (n + 1) <+: normalizeNewlines t ↔ feedBehind (n + 2) <+: t := by
  induction t using crlf_induction generalizing n with
  | nil => simp [feedBehind]
  | pair t ih => simp [feedBehind_succ]
  | cons c t hpair ih =>
      rw [normalizeNewlines_cons hpair, feedBehind_succ, feedBehind_succ (n + 1), List.cons_prefix_cons,
        List.cons_prefix_cons]
      refine and_congr_right ?_
      rintro rfl
      cases n with
      | succ n => exact ih
      | zero => exact feed_prefix_normalizeNewlines_iff fun hhead => hpair ⟨rfl, hhead⟩

/-- **One reading** takes one carriage return off those in front of a line feed. -/
theorem feedBehind_infix_normalizeNewlines_iff {n : Nat} {t : Text} :
    feedBehind (n + 1) <:+: normalizeNewlines t ↔ feedBehind (n + 2) <:+: t := by
  induction t using crlf_induction with
  | nil => simp [feedBehind]
  | pair t ih =>
      rw [normalizeNewlines_pair, List.infix_cons_iff, ih, List.infix_cons_iff, List.infix_cons_iff]
      simp [feedBehind_succ]
  | cons c t hpair ih =>
      rw [List.infix_cons_iff, ← feedBehind_prefix_normalizeNewlines_iff, normalizeNewlines_cons hpair,
        List.infix_cons_iff, ih]

/-- A text is read as itself exactly if it has no pairs. -/
theorem normalizeNewlines_eq_self_iff {t : Text} :
    normalizeNewlines t = t ↔ ¬feedBehind 1 <:+: t := by
  refine ⟨fun h hpair => ?_, fun h => (Respelled.refl t).normalizeNewlines_eq h⟩
  have hall : ∀ n, feedBehind (n + 1) <:+: t := by
    intro n
    induction n with
    | zero => exact hpair
    | succ n ih => exact feedBehind_infix_normalizeNewlines_iff.mp (h.symm ▸ ih)
  have hle := (hall t.length).length_le
  rw [length_feedBehind] at hle
  omega

/-- **What a number of readings leaves.** There is a pair of carriage return and line feed behind `n`
readings exactly if some line feed of the text stands behind more than `n` carriage returns, and a
further reading changes nothing exactly if there is none. So the text that is checked, behind one
reading, has no pairs and is read as itself exactly if no line feed stands behind two of them. -/
theorem normalizeNewlines_iterate (t : Text) (n : Nat) :
    (['\r', '\n'] <:+: normalizeNewlines^[n] t ↔ feedBehind (n + 1) <:+: t) ∧
      (normalizeNewlines (normalizeNewlines^[n] t) = normalizeNewlines^[n] t ↔
        ¬feedBehind (n + 1) <:+: t) := by
  have hleft : ∀ m, feedBehind (m + 1) <:+: normalizeNewlines^[n] t ↔
      feedBehind (m + n + 1) <:+: t := by
    induction n with
    | zero => exact fun m => Iff.rfl
    | succ n ih =>
        intro m
        rw [Function.iterate_succ_apply', feedBehind_infix_normalizeNewlines_iff, ih (m + 1),
          Nat.add_right_comm m 1 n, Nat.add_assoc m n 1]
  have hpair := hleft 0
  rw [Nat.zero_add, Nat.zero_add] at hpair
  exact ⟨hpair, normalizeNewlines_eq_self_iff.trans (not_congr hpair)⟩

/-- A line end that was converted twice: the reading leaves a pair, and a further one changes it. -/
theorem normalizeNewlines_doubled :
    ['\r', '\n'] <:+: normalizeNewlines "Trips\r\r\nDepots\n".toList ∧
      normalizeNewlines (normalizeNewlines "Trips\r\r\nDepots\n".toList) ≠
        normalizeNewlines "Trips\r\r\nDepots\n".toList := by
  refine ⟨Text.occursIn_iff.mp ?_, ?_⟩ <;> decide

end Page

namespace Checker

/-- **Line ends do not change what is found on a page.** For a text without pairs of carriage return
and line feed, every spelling of the text gives the findings that the text gives, in the same order. -/
theorem checkPage_respelled (checker : Checker) (path : String) {t u : Text}
    (ht : ¬['\r', '\n'] <:+: t) (h : Page.Respelled t u) :
    checker.checkPage path u = checker.checkPage path t := by
  have htext : Page.normalizeNewlines t = t := (Page.Respelled.refl t).normalizeNewlines_eq ht
  rw [checkPage, checkPage, htext, h.normalizeNewlines_eq ht]

/-- A page with a carriage return of its own, written with both line ends. -/
theorem checkPage_respelled_mixed :
    let t : Text := "---\ntitle: Fleet\n---\n\rTrips\n".toList
    let u : Text := "---\r\ntitle: Fleet\n---\r\n\rTrips\r\n".toList
    ¬['\r', '\n'] <:+: t ∧ Page.Respelled t u ∧
      unmarked.checkPage "fleet.md" u = unmarked.checkPage "fleet.md" t := by
  intro t u
  have ht : ¬['\r', '\n'] <:+: t := fun h => absurd (Text.occursIn_iff.mpr h) (by decide +kernel)
  have h : Page.Respelled t u := (Page.normalizeNewlines_eq_iff ht).mp (by decide +kernel)
  exact ⟨ht, h, checkPage_respelled unmarked "fleet.md" ht h⟩

end Checker

end PageLint
