import PageLint.Proofs.Scanning

/-!
# Splitting texts

A text is split in two ways: at every occurrence of a separator (`Text.splitOn`), which gives pieces
that may be empty, and into words (`Text.words`), where any number of blanks parts two words.

Pieces are put together again with the separator between them, and nothing is lost. A text that is
split into words loses its blanks, so its words are described by a relation (`Text.Spaced`): where
there may be blanks, and where there must be some.

## Main results

* `Text.join_splitOn`, `Text.splitOn_join`: splitting at a separator and putting together undo each
  other.
* `Text.infix_cons_iff`: what stands behind a separator begins a piece other than the first.
* `Text.words_eq_iff`: the words of a text.
* `Text.words_join`: the words of pieces with blanks between them.
-/

namespace PageLint.Text

variable {sep : Char} {t : Text}

/-! ### At a separator -/

/-- The pieces between separators are those of lists. -/
theorem splitOn_eq (sep : Char) (t : Text) : splitOn sep t = List.splitOn sep t := by
  induction t with
  | nil => rfl
  | cons c t ih =>
      rw [splitOn, ih, List.splitOn_cons_eq_if_modifyHead]
      simp only [beq_iff_eq]
      split
      · rfl
      · cases hpieces : List.splitOn sep t with
        | nil => exact absurd hpieces (List.splitOn_ne_nil sep t)
        | cons piece pieces => rfl

/-- Pieces are joined as lists are. -/
theorem join_eq_intercalate (sep : Text) (pieces : List Text) :
    join sep pieces = sep.intercalate pieces := by
  fun_induction join sep pieces with
  | case1 => rfl
  | case2 piece => simp
  | case3 piece pieces hne ih =>
      rw [ih, List.intercalate_cons_of_ne_nil hne, List.append_assoc]

/-- A text is its pieces with separators between them. -/
theorem join_splitOn (sep : Char) (t : Text) : join [sep] (splitOn sep t) = t := by
  rw [join_eq_intercalate, splitOn_eq, List.intercalate_splitOn]

/-- A text is determined by its pieces. -/
theorem splitOn_inj {s t : Text} (h : splitOn sep s = splitOn sep t) : s = t := by
  rw [← join_splitOn sep s, h, join_splitOn]

/-- A text has one piece at least. -/
theorem splitOn_ne_nil (sep : Char) (t : Text) : splitOn sep t ≠ [] := by
  rw [splitOn_eq]
  exact List.splitOn_ne_nil sep t

/-- No piece holds the separator. -/
theorem notMem_of_mem_splitOn {piece : Text} (h : piece ∈ splitOn sep t) : sep ∉ piece := by
  induction t generalizing piece with
  | nil =>
      obtain rfl := List.mem_singleton.mp h
      exact List.not_mem_nil
  | cons c t ih =>
      rw [splitOn] at h
      split at h
      · rcases List.mem_cons.mp h with rfl | h
        · exact List.not_mem_nil
        · exact ih h
      · next hc =>
        obtain ⟨head, pieces, hpieces⟩ := List.exists_cons_of_ne_nil (splitOn_ne_nil sep t)
        rw [hpieces] at h ih
        rcases List.mem_cons.mp h with rfl | h
        · rw [List.mem_cons, not_or]
          exact ⟨Ne.symm hc, ih List.mem_cons_self⟩
        · exact ih (List.mem_cons_of_mem _ h)

/-- Pieces without separators are read back. -/
theorem splitOn_join {pieces : List Text} (hne : pieces ≠ []) (h : ∀ piece ∈ pieces, sep ∉ piece) :
    splitOn sep (join [sep] pieces) = pieces := by
  rw [join_eq_intercalate, splitOn_eq, List.splitOn_intercalate sep h hne]

/-- A separator ends the pieces before it. -/
theorem splitOn_append_cons (sep : Char) (s t : Text) :
    splitOn sep (s ++ sep :: t) = splitOn sep s ++ splitOn sep t := by
  rw [splitOn_eq, splitOn_eq, splitOn_eq, List.splitOn_append_cons_self]

/-- Text without separators in front of a text belongs to the first piece. -/
theorem splitOn_append (hs : sep ∉ s) {piece : Text} {pieces : List Text}
    (h : splitOn sep t = piece :: pieces) : splitOn sep (s ++ t) = (s ++ piece) :: pieces := by
  induction s with
  | nil => exact h
  | cons c s ih =>
      obtain ⟨hc, hs⟩ := not_or.mp (mt List.mem_cons.mpr hs)
      rw [List.cons_append, splitOn, if_neg (Ne.symm hc), ih hs]
      rfl

/-- A separator stands between the first two pieces. -/
theorem join_cons_cons (sep piece piece' : Text) (pieces : List Text) :
    join sep (piece :: piece' :: pieces) = piece ++ sep ++ join sep (piece' :: pieces) := rfl

/-- A separator stands before each piece other than the first. -/
theorem join_cons (sep piece : Text) (pieces : List Text) :
    join sep (piece :: pieces) = piece ++ pieces.flatMap (sep ++ ·) := by
  induction pieces generalizing piece with
  | nil => rw [join, List.flatMap_nil, List.append_nil]
  | cons piece' pieces ih =>
      rw [join_cons_cons, ih, List.flatMap_cons, List.append_assoc, List.append_assoc]

/-- Two lists of pieces are put together with a separator between them. -/
theorem join_append {sep : Text} {pieces pieces' : List Text} (h : pieces ≠ [])
    (h' : pieces' ≠ []) :
    join sep (pieces ++ pieces') = join sep pieces ++ (sep ++ join sep pieces') := by
  obtain ⟨next, pieces', rfl⟩ := List.exists_cons_of_ne_nil h'
  induction pieces with
  | nil => exact absurd rfl h
  | cons piece pieces ih =>
      cases pieces with
      | nil => rw [List.singleton_append, join_cons_cons, List.append_assoc, join]
      | cons piece' pieces =>
          have hrest := ih (List.cons_ne_nil _ _)
          rw [List.cons_append] at hrest
          rw [List.cons_append, List.cons_append, join_cons_cons, join_cons_cons, hrest]
          simp only [List.append_assoc]

/-- A text that is put together of pieces, which are parted by one character, is shorter by one than
the pieces with that character before each. -/
theorem length_join (sep : Char) (pieces : List Text) :
    (join [sep] pieces).length = (pieces.flatMap (sep :: ·)).length - 1 := by
  cases pieces with
  | nil => rfl
  | cons piece pieces =>
      rw [join_cons, List.flatMap_cons, List.length_append, List.length_append, List.length_cons]
      change _ + (pieces.flatMap (sep :: ·)).length = _
      omega

/-- A piece is no longer than the text. -/
theorem length_le_of_mem_splitOn {piece : Text} (h : piece ∈ splitOn sep t) :
    piece.length ≤ t.length := by
  obtain ⟨front, back, hpieces⟩ := List.append_of_mem h
  have hlength := length_join sep (splitOn sep t)
  rw [join_splitOn, hpieces, List.flatMap_append, List.flatMap_cons, List.length_append,
    List.length_append, List.length_cons] at hlength
  omega

/-- A text with a separator in front of it occurs where a piece other than the first begins with
it. -/
theorem infix_cons_iff {part : Text} (hpart : sep ∉ part) :
    sep :: part <:+: t ↔ ∃ piece ∈ (splitOn sep t).tail, part <+: piece := by
  constructor
  · rintro ⟨front, back, rfl⟩
    obtain ⟨piece, pieces, hback⟩ := List.exists_cons_of_ne_nil (splitOn_ne_nil sep back)
    refine ⟨part ++ piece, ?_, List.prefix_append _ _⟩
    rw [List.append_assoc, List.cons_append, splitOn_append_cons, splitOn_append hpart hback,
      List.tail_append_of_ne_nil (splitOn_ne_nil sep front)]
    exact List.mem_append_right _ List.mem_cons_self
  · rintro ⟨piece, hmem, rest, rfl⟩
    obtain ⟨first, pieces, hpieces⟩ := List.exists_cons_of_ne_nil (splitOn_ne_nil sep t)
    rw [hpieces, List.tail_cons] at hmem
    obtain ⟨front, back, rfl⟩ := List.append_of_mem hmem
    have ht : t = join [sep] (first :: front) ++ ([sep] ++ join [sep] ((part ++ rest) :: back)) := by
      rw [← join_append (List.cons_ne_nil _ _) (List.cons_ne_nil _ _), List.cons_append, ← hpieces,
        join_splitOn]
    obtain ⟨rest', hrest⟩ : ∃ rest', join [sep] ((part ++ rest) :: back) = part ++ rest' := by
      cases back with
      | nil => exact ⟨rest, rfl⟩
      | cons next back => exact ⟨rest ++ ([sep] ++ join [sep] (next :: back)), by simp [join]⟩
    exact ⟨join [sep] (first :: front), rest', by rw [ht, hrest]; simp⟩

/-! ### Into words -/

/-- The words of a text: blanks may stand before each word and at the end, words hold none, and a word
goes on up to a blank or the end. -/
inductive Spaced : Text → List Text → Prop
  | done (blanks : Text) (hblank : ∀ c ∈ blanks, isSpace c = true) : Spaced blanks []
  | word {blanks w rest : Text} {ws : List Text} (hblank : ∀ c ∈ blanks, isSpace c = true)
      (hne : w ≠ []) (hword : ∀ c ∈ w, isSpace c = false)
      (hend : ∀ c, rest.head? = some c → isSpace c = true) (hrest : Spaced rest ws) :
      Spaced (blanks ++ (w ++ rest)) (w :: ws)

/-- Two words with a blank between them. -/
theorem Spaced.pair {a b : Text} {c : Char} (ha : a ≠ []) (haword : ∀ d ∈ a, isSpace d = false)
    (hc : isSpace c = true) (hb : b ≠ []) (hbword : ∀ d ∈ b, isSpace d = false) :
    Spaced (a ++ c :: b) [a, b] := by
  have hlast : Spaced ([c] ++ (b ++ [])) [b] :=
    .word (by simpa using hc) hb hbword (by simp) (.done [] (by simp))
  rw [List.append_nil] at hlast
  have hfirst : Spaced ([] ++ (a ++ ([c] ++ b))) [a, b] := by
    refine .word (by simp) ha haword ?_ hlast
    rintro d hd
    obtain rfl := Option.some.inj hd
    exact hc
  exact hfirst

/-- A blank in front does not change the words. -/
theorem words_cons_of_isSpace {c : Char} (hc : isSpace c = true) (t : Text) :
    words (c :: t) = words t := by
  rw [words, wordsFrom, if_pos hc]
  rfl

/-- A word that is being read goes on up to the next blank. -/
theorem wordsFrom_eq (w t : Text) (hw : w ≠ []) :
    wordsFrom w t = (w.reverse ++ t.takeWhile (!isSpace ·)) :: words (t.dropWhile (!isSpace ·)) := by
  have hempty : w.isEmpty = false := by simpa using hw
  induction t generalizing w with
  | nil => simp [wordsFrom, words, hempty]
  | cons c t ih =>
      rw [wordsFrom]
      by_cases hc : isSpace c = true
      · simp [hc, hempty, words, wordsFrom]
      · rw [if_neg hc, ih (c :: w) (List.cons_ne_nil c w) rfl]
        simp [hc]

/-- A word in front of a blank or at the end of a text is its first word. -/
theorem words_append {w rest : Text} (hne : w ≠ []) (hword : ∀ c ∈ w, isSpace c = false)
    (hend : ∀ c, rest.head? = some c → isSpace c = true) : words (w ++ rest) = w :: words rest := by
  obtain ⟨c, w, rfl⟩ := List.exists_cons_of_ne_nil hne
  obtain ⟨hc, hword⟩ := List.forall_mem_cons.mp hword
  obtain ⟨htake, hdrop⟩ := takeWhile_dropWhile_append (p := (!isSpace ·))
    (fun d hd => by simp [hword d hd]) (fun d hd => by simp [hend d hd])
  rw [List.cons_append, words, wordsFrom, if_neg (by simp [hc]), wordsFrom_eq _ _ (by simp), htake,
    hdrop]
  rfl

/-- Blanks in front do not change the words. -/
theorem words_blanks_append {blanks : Text} (h : ∀ c ∈ blanks, isSpace c = true) (t : Text) :
    words (blanks ++ t) = words t := by
  induction blanks with
  | nil => rfl
  | cons c blanks ih =>
      obtain ⟨hc, hblanks⟩ := List.forall_mem_cons.mp h
      rw [List.cons_append, words_cons_of_isSpace hc, ih hblanks]

/-- Blanks in front of a text do not change its words. -/
theorem Spaced.cons {c : Char} {ws : List Text} (hc : isSpace c = true) (h : Spaced t ws) :
    Spaced (c :: t) ws := by
  cases h with
  | done _ hblank => exact .done _ (List.forall_mem_cons.mpr ⟨hc, hblank⟩)
  | word hblank hne hword hend hrest =>
      exact .word (List.forall_mem_cons.mpr ⟨hc, hblank⟩) hne hword hend hrest

/-- A text is its words with blanks around and between them. -/
theorem spaced_words (t : Text) : Spaced t (words t) := by
  cases t with
  | nil => exact .done [] (by simp)
  | cons c t =>
      by_cases hc : isSpace c = true
      · rw [words_cons_of_isSpace hc]
        exact (spaced_words t).cons hc
      · have hword : ∀ d ∈ c :: t.takeWhile (!isSpace ·), isSpace d = false := by
          refine List.forall_mem_cons.mpr ⟨by simpa using hc, fun d hd => ?_⟩
          simpa using List.mem_takeWhile_imp hd
        have hend : ∀ d, (t.dropWhile (!isSpace ·)).head? = some d → isSpace d = true := by
          intro d hd
          simpa using not_of_head?_dropWhile hd
        have hrest := spaced_words (t.dropWhile (!isSpace ·))
        have hspaced := Spaced.word (fun _ h => absurd h List.not_mem_nil) (List.cons_ne_nil _ _)
          hword hend hrest
        rw [List.nil_append, List.cons_append, List.takeWhile_append_dropWhile] at hspaced
        rw [words, wordsFrom, if_neg hc, wordsFrom_eq _ _ (by simp)]
        exact hspaced
termination_by t.length
decreasing_by
  · exact Nat.lt_succ_self _
  · exact Nat.lt_succ_of_le (List.dropWhile_suffix _).length_le

/-- A character of a word is one of the text. -/
theorem Spaced.mem_of_mem {words : List Text} {word : Text} {c : Char} (h : Spaced t words)
    (hword : word ∈ words) (hc : c ∈ word) : c ∈ t := by
  induction h with
  | done blanks hblank => exact absurd hword List.not_mem_nil
  | word hblank hne hchars hend hrest ih =>
      refine List.mem_append_right _ (List.mem_append.mpr ?_)
      rcases List.mem_cons.mp hword with rfl | hword
      · exact Or.inl hc
      · exact Or.inr (ih hword)

/-- **The words of a text.** -/
theorem words_eq_iff {ws : List Text} : words t = ws ↔ Spaced t ws := by
  constructor
  · rintro rfl
    exact spaced_words t
  · intro h
    induction h with
    | done blanks hblank => simpa [words, wordsFrom] using words_blanks_append hblank []
    | word hblank hne hword hend _ ih => rw [words_blanks_append hblank, words_append hne hword hend, ih]

/-- A blank ends the words of the text in front of it. -/
theorem wordsFrom_append_cons {c : Char} (hc : isSpace c = true) (w s t : Text) :
    wordsFrom w (s ++ c :: t) = wordsFrom w s ++ words t := by
  induction s generalizing w with
  | nil =>
      rw [List.nil_append, wordsFrom.eq_2, if_pos hc, wordsFrom.eq_1]
      split <;> rfl
  | cons d s ih =>
      rw [List.cons_append, wordsFrom, wordsFrom]
      split
      · split
        · exact ih []
        · rw [ih, List.cons_append]
      · exact ih (d :: w)

/-- The words of two texts with blanks between them. -/
theorem words_append_blanks {blanks : Text} (hne : blanks ≠ [])
    (hblank : ∀ c ∈ blanks, isSpace c = true) (s t : Text) :
    words (s ++ (blanks ++ t)) = words s ++ words t := by
  obtain ⟨c, blanks, rfl⟩ := List.exists_cons_of_ne_nil hne
  obtain ⟨hc, hblanks⟩ := List.forall_mem_cons.mp hblank
  rw [List.cons_append, words, wordsFrom_append_cons hc, words_blanks_append hblanks]
  rfl

/-- The words of pieces that are put together with blanks between them. -/
theorem words_join {blanks : Text} (hne : blanks ≠ []) (hblank : ∀ c ∈ blanks, isSpace c = true)
    (pieces : List Text) : words (join blanks pieces) = pieces.flatMap words := by
  induction pieces with
  | nil => rfl
  | cons piece pieces ih =>
      cases pieces with
      | nil => rw [join, List.flatMap_singleton]
      | cons piece' pieces =>
          rw [join_cons_cons, List.append_assoc, words_append_blanks hne hblank, ih]
          rfl

/-- Is the text one word? -/
def IsOneWord (w : Text) : Prop := w ≠ [] ∧ ∀ c ∈ w, isSpace c = false

/-- The words of a single word are that word. -/
theorem IsOneWord.words_eq {w : Text} (h : w.IsOneWord) : words w = [w] := by
  have hend : ∀ c, ([] : Text).head? = some c → isSpace c = true := by simp
  have hwords := words_append h.1 h.2 hend
  rwa [List.append_nil] at hwords

/-- The words of a text are words. -/
theorem isOneWord_of_mem_words {w : Text} (h : w ∈ words t) : w.IsOneWord := by
  have hspaced := spaced_words t
  generalize words t = ws at h hspaced
  induction hspaced with
  | done blanks hblank => exact absurd h List.not_mem_nil
  | word hblank hne hword hend hrest ih =>
      rcases List.mem_cons.mp h with rfl | h
      · exact ⟨hne, hword⟩
      · exact ih h

/-- Words with blanks between each two are read back. -/
theorem words_join_of_isOneWord {blanks : Text} (hne : blanks ≠ [])
    (hblank : ∀ c ∈ blanks, isSpace c = true) {ws : List Text} (h : ∀ w ∈ ws, IsOneWord w) :
    words (join blanks ws) = ws := by
  rw [words_join hne hblank]
  induction ws with
  | nil => rfl
  | cons w ws ih =>
      obtain ⟨hw, hws⟩ := List.forall_mem_cons.mp h
      rw [List.flatMap_cons, hw.words_eq, ih hws, List.singleton_append]

end PageLint.Text
