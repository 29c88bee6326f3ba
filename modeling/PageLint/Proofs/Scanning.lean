import Mathlib.Data.List.TakeWhile
import PageLint.Text.Scan

/-!
# Scanning

What the pieces of readers take off a text, and what a scan finds in a text that is put together.

The pieces are described by the split of the text that they make: up to a character
(`Text.readUpTo?_eq_some_iff`), up to the first occurrence of a mark
(`Text.splitAt?_eq_some_iff`), blanks and words. A scan goes through an append when its reader reads
at every place of the first text what it reads there in front of the second.

## Main results

* `Text.trim_eq_iff`: what a text is trimmed to.
* `Text.splitAt?_eq_some_iff`: a text is split at the first occurrence of a mark.
* `Text.hitsFrom_append`: **the fragments of an append** are those of the first text and then those
  of the second, when no fragment crosses over.
* `Text.hitsFrom_fragment`: a fragment at the head of a text is found, and the scan goes on behind
  it.
* `Text.without_fragment_append`, `Text.without_append`: what is taken out of a text that is put
  together.
-/

namespace PageLint.Text

/-! ### Classes of characters -/

/-- The longest head of a text in a class of characters, and the rest. -/
theorem takeWhile_dropWhile_append {p : Char → Bool} {a b : Text} (ha : ∀ c ∈ a, p c = true)
    (hb : ∀ c, b.head? = some c → p c = false) :
    (a ++ b).takeWhile p = a ∧ (a ++ b).dropWhile p = b := by
  rw [List.takeWhile_append_of_pos ha, List.dropWhile_append_of_pos ha]
  cases b with
  | nil => exact ⟨List.append_nil a, rfl⟩
  | cons c b =>
      have hc : p c = false := hb c rfl
      simp [hc]

/-- What remains behind the longest head does not begin in the class. -/
theorem not_of_head?_dropWhile {p : Char → Bool} {t : Text} {c : Char}
    (h : (t.dropWhile p).head? = some c) : p c = false := by
  have hnot := List.head?_dropWhile_not p t
  rw [h] at hnot
  simpa using hnot

/-- Blanks are taken off as far as they go, and there has to be one. -/
theorem afterBlanks?_eq_some_iff {t rest : Text} :
    afterBlanks? t = some rest ↔
      ∃ blanks, blanks ≠ [] ∧ (∀ c ∈ blanks, isSpace c = true) ∧ t = blanks ++ rest ∧
        ∀ c, rest.head? = some c → isSpace c = false := by
  constructor
  · intro h
    cases t with
    | nil => exact absurd h (by simp [afterBlanks?])
    | cons c t =>
        by_cases hc : isSpace c = true
        · rw [afterBlanks?, if_pos hc] at h
          obtain rfl := Option.some.inj h
          refine ⟨c :: t.takeWhile isSpace, List.cons_ne_nil _ _, ?_, ?_, ?_⟩
          · intro d hd
            rcases List.mem_cons.mp hd with rfl | hd
            · exact hc
            · exact List.mem_takeWhile_imp hd
          · rw [List.cons_append, List.takeWhile_append_dropWhile]
          · exact fun d hd => not_of_head?_dropWhile hd
        · rw [afterBlanks?, if_neg hc] at h
          exact absurd h (by simp)
  · rintro ⟨blanks, hne, hblanks, rfl, hrest⟩
    cases blanks with
    | nil => exact absurd rfl hne
    | cons c blanks =>
        have htail : ∀ d ∈ blanks, isSpace d = true := fun d hd =>
          hblanks d (List.mem_cons_of_mem c hd)
        rw [List.cons_append, afterBlanks?, if_pos (hblanks c List.mem_cons_self),
          (takeWhile_dropWhile_append htail hrest).2]

/-- A word is taken off as far as it goes, and has to have a character. -/
theorem readWord?_eq_some_iff {t word rest : Text} :
    readWord? t = some (word, rest) ↔
      word ≠ [] ∧ (∀ c ∈ word, isWordChar c = true) ∧ t = word ++ rest ∧
        ∀ c, rest.head? = some c → isWordChar c = false := by
  constructor
  · intro h
    rw [readWord?] at h
    cases htake : t.takeWhile isWordChar with
    | nil =>
        rw [htake] at h
        cases h
    | cons c w =>
        rw [htake] at h
        obtain ⟨rfl, rfl⟩ := Prod.mk.inj (Option.some.inj h)
        refine ⟨List.cons_ne_nil _ _, ?_, ?_, ?_⟩
        · intro d hd
          exact List.mem_takeWhile_imp (htake ▸ hd)
        · rw [← htake, List.takeWhile_append_dropWhile]
        · exact fun d hd => not_of_head?_dropWhile hd
  · rintro ⟨hne, hword, rfl, hrest⟩
    obtain ⟨htake, hdrop⟩ := takeWhile_dropWhile_append hword hrest
    rw [readWord?, htake, hdrop]
    cases word with
    | nil => exact absurd rfl hne
    | cons c w => rfl

/-- Behind a word character, a word ends where the next character is none. -/
theorem atWordBoundary_iff {c : Char} (hc : isWordChar c = true) (t : Text) :
    atWordBoundary (some c) t = true ↔ ∀ d, t.head? = some d → isWordChar d = false := by
  rw [atWordBoundary, Option.any_some, hc]
  cases t with
  | nil => simp
  | cons d t => simp

/-! ### Trimming -/

/-- Is it the text `core` with blanks around it, or without? -/
def IsPadded (core t : Text) : Prop :=
  ∃ before after : Text, (∀ c ∈ before, isSpace c = true) ∧ (∀ c ∈ after, isSpace c = true) ∧
    t = before ++ (core ++ after)

/-- Every text is padded with no blanks. -/
theorem IsPadded.refl (t : Text) : IsPadded t t := ⟨[], [], by simp, by simp, by simp⟩

/-- A padded text is made of the text itself and blanks. -/
theorem IsPadded.notMem {core t : Text} (h : IsPadded core t) {c : Char} (hcore : c ∉ core)
    (hblank : isSpace c = false) : c ∉ t := by
  obtain ⟨before, after, hbefore, hafter, rfl⟩ := h
  have hnot : ∀ blanks : Text, (∀ d ∈ blanks, isSpace d = true) → c ∉ blanks := fun blanks h hmem =>
    absurd (h c hmem) (by rw [hblank]; decide)
  simp [hnot before hbefore, hnot after hafter, hcore]

/-- The last character of a padded text is that of the text itself, unless it is a blank. -/
theorem IsPadded.getLast?_eq {core t : Text} (h : IsPadded core t) {c : Char}
    (hlast : t.getLast? = some c) (hc : isSpace c = false) : core.getLast? = some c := by
  obtain ⟨before, after, hbefore, hafter, rfl⟩ := h
  have hnot : ∀ d, isSpace d = true → d ≠ c := by
    rintro d hd rfl
    exact absurd hd (by rw [hc]; decide)
  rw [List.getLast?_append, List.getLast?_append] at hlast
  cases hafterLast : after.getLast? with
  | some d =>
      rw [hafterLast] at hlast
      exact absurd (Option.some.inj hlast) (hnot d (hafter d (List.mem_of_getLast? hafterLast)))
  | none =>
      rw [hafterLast, Option.none_or] at hlast
      cases hcore : core.getLast? with
      | some d =>
          rw [hcore, Option.some_or] at hlast
          exact hlast
      | none =>
          rw [hcore, Option.none_or] at hlast
          exact absurd rfl (hnot c (hbefore c (List.mem_of_getLast? hlast)))

/-- A text that neither begins nor ends with a blank. -/
structure IsTrimmed (t : Text) : Prop where
  /-- No blank is in front. -/
  head : ∀ c, t.head? = some c → isSpace c = false
  /-- No blank is at the end. -/
  last : ∀ c, t.getLast? = some c → isSpace c = false

/-- A text between two characters that are not blank is trimmed, whatever it holds. -/
theorem isTrimmed_enclosed {c d : Char} (hc : isSpace c = false) (hd : isSpace d = false)
    (t : Text) : IsTrimmed (c :: (t ++ [d])) := by
  constructor
  · intro e he
    obtain rfl := Option.some.inj he
    exact hc
  · intro e he
    rw [← List.cons_append, List.getLast?_concat] at he
    obtain rfl := Option.some.inj he
    exact hd

/-- A text without blanks is trimmed. -/
theorem isTrimmed_of_forall {t : Text} (h : ∀ c ∈ t, isSpace c = false) : IsTrimmed t :=
  ⟨fun c hc => h c (List.mem_of_mem_head? hc), fun c hc => h c (List.mem_of_getLast? hc)⟩

/-- Trimming takes blanks off the end, and all of them. -/
theorem exists_eq_trimEnd_append (t : Text) :
    ∃ blanks, t = t.trimEnd ++ blanks ∧ (∀ c ∈ blanks, isSpace c = true) ∧
      ∀ c, t.trimEnd.getLast? = some c → isSpace c = false := by
  refine ⟨(t.reverse.takeWhile isSpace).reverse, ?_, ?_, ?_⟩
  · rw [trimEnd, dropEndWhile, ← List.reverse_append, List.takeWhile_append_dropWhile,
      List.reverse_reverse]
  · intro c hc
    exact List.mem_takeWhile_imp (List.mem_reverse.mp hc)
  · intro c hc
    rw [trimEnd, dropEndWhile, List.getLast?_reverse] at hc
    exact not_of_head?_dropWhile hc

/-- Blanks at the end are taken off as far as the last other character. -/
theorem trimEnd_append {t blanks : Text} (hlast : ∀ c, t.getLast? = some c → isSpace c = false)
    (hblanks : ∀ c ∈ blanks, isSpace c = true) : trimEnd (t ++ blanks) = t := by
  have hhead : ∀ c, t.reverse.head? = some c → isSpace c = false := by
    rwa [List.head?_reverse]
  have hreverse : ∀ c ∈ blanks.reverse, isSpace c = true := fun c hc =>
    hblanks c (List.mem_reverse.mp hc)
  rw [trimEnd, dropEndWhile, List.reverse_append, (takeWhile_dropWhile_append hreverse hhead).2,
    List.reverse_reverse]

/-- No blank is at the end of a text that ends with another character. -/
theorem trimEnd_append_singleton {c : Char} (hc : isSpace c = false) (t : Text) :
    trimEnd (t ++ [c]) = t ++ [c] := by
  simp [trimEnd, dropEndWhile, hc]

/-- What a text is trimmed to: the trimmed text that it holds between blanks. -/
theorem trim_eq_iff {t core : Text} : trim t = core ↔ IsTrimmed core ∧ IsPadded core t := by
  have htrim : trim t = trimEnd (t.dropWhile isSpace) := rfl
  rw [htrim]
  constructor
  · rintro rfl
    obtain ⟨after, hsplit, hafter, hlast⟩ := exists_eq_trimEnd_append (t.dropWhile isSpace)
    refine ⟨⟨?_, hlast⟩, t.takeWhile isSpace, after, ?_, hafter, ?_⟩
    · intro c hc
      have hhead : (t.dropWhile isSpace).head? = some c := by
        rw [hsplit, List.head?_append, hc, Option.some_or]
      exact not_of_head?_dropWhile hhead
    · exact fun c hc => List.mem_takeWhile_imp hc
    · rw [← hsplit, List.takeWhile_append_dropWhile]
  · rintro ⟨⟨hhead, hlast⟩, before, after, hbefore, hafter, rfl⟩
    rw [List.dropWhile_append_of_pos hbefore]
    cases core with
    | nil =>
        rw [List.nil_append, List.dropWhile_eq_nil_iff.mpr hafter]
        rfl
    | cons c core =>
        have hc : isSpace c = false := hhead c rfl
        rw [List.cons_append, List.dropWhile_cons_of_neg (by simp [hc]), ← List.cons_append]
        exact trimEnd_append hlast hafter

/-- A text is left as it is by trimming exactly if it has no blanks around it. -/
theorem trim_eq_self_iff {t : Text} : trim t = t ↔ IsTrimmed t :=
  trim_eq_iff.trans (and_iff_left (IsPadded.refl t))

/-! ### Up to a mark -/

/-- Text is taken up to the first `c`. -/
theorem readUpTo?_eq_some_iff {c : Char} {t head rest : Text} :
    readUpTo? c t = some (head, rest) ↔ c ∉ head ∧ t = head ++ c :: rest := by
  constructor
  · intro h
    rw [readUpTo?] at h
    cases hdrop : t.dropWhile (· != c) with
    | nil =>
        rw [hdrop] at h
        cases h
    | cons d rest =>
        rw [hdrop] at h
        obtain ⟨rfl, rfl⟩ := Prod.mk.inj (Option.some.inj h)
        have hhead : (t.dropWhile (· != c)).head? = some d := by rw [hdrop, List.head?_cons]
        obtain rfl : d = c := by simpa using not_of_head?_dropWhile hhead
        refine ⟨?_, ?_⟩
        · intro hmem
          exact absurd (List.mem_takeWhile_imp hmem) (by simp)
        · rw [← hdrop, List.takeWhile_append_dropWhile]
  · rintro ⟨hmem, rfl⟩
    have hhead : ∀ d ∈ head, (d != c) = true := by
      intro d hd
      exact bne_iff_ne.mpr fun heq => hmem (heq ▸ hd)
    have hc : ∀ d, (c :: rest).head? = some d → (d != c) = false := by
      rintro d hd
      obtain rfl := Option.some.inj hd
      exact bne_self_eq_false' c
    obtain ⟨htake, hdrop⟩ := takeWhile_dropWhile_append hhead hc
    rw [readUpTo?, htake, hdrop]

/-- There is only one first `c` in a text. -/
theorem append_cons_inj {c : Char} {a a' b b' : Text} (ha : c ∉ a) (ha' : c ∉ a')
    (h : a ++ c :: b = a' ++ c :: b') : a = a' ∧ b = b' := by
  have hread : readUpTo? c (a ++ c :: b) = some (a, b) := readUpTo?_eq_some_iff.mpr ⟨ha, rfl⟩
  rw [readUpTo?_eq_some_iff.mpr ⟨ha', h⟩] at hread
  exact Prod.mk.inj (Option.some.inj hread.symm)

/-- A character that the second of two texts lacks stands in the first. -/
theorem exists_of_append_eq {c : Char} {t u a b : Text} (hu : c ∉ u) (h : t ++ u = a ++ c :: b) :
    ∃ b', t = a ++ c :: b' ∧ b = b' ++ u := by
  rcases List.append_eq_append_iff.mp h with ⟨s, -, hs⟩ | ⟨s, rfl, hs⟩
  · exact absurd (hs ▸ List.mem_append_right s List.mem_cons_self) hu
  · cases s with
    | nil =>
        rw [List.nil_append] at hs
        exact absurd (hs ▸ List.mem_cons_self) hu
    | cons d s =>
        obtain ⟨rfl, rfl⟩ := List.cons.inj hs
        exact ⟨s, rfl, rfl⟩

/-- A text is split at the first occurrence of a mark: the mark does not begin any earlier. -/
theorem splitAt?_eq_some_iff {mark t before rest : Text} (hmark : mark ≠ []) :
    splitAt? mark t = some (before, rest) ↔
      t = before ++ (mark ++ rest) ∧ ¬mark <:+: before ++ mark.dropLast := by
  have hshort : ¬mark <:+: mark.dropLast := by
    intro hinfix
    have hle := hinfix.length_le
    have hpos := List.length_pos_iff.mpr hmark
    rw [List.length_dropLast] at hle
    omega
  induction t generalizing before with
  | nil =>
      have hempty : mark.isEmpty = false := by simpa using hmark
      simp [splitAt?, hempty, hmark]
  | cons c t ih =>
      rw [splitAt?]
      cases hafter : after? mark (c :: t) with
      | some rest' =>
          have hstart := after?_eq_some_iff.mp hafter
          constructor
          · intro h
            obtain ⟨rfl, rfl⟩ := Prod.mk.inj (Option.some.inj h)
            exact ⟨hstart, hshort⟩
          · rintro ⟨hsplit, hfirst⟩
            cases before with
            | nil =>
                rw [hstart] at hsplit
                rw [List.append_cancel_left hsplit]
            | cons d before =>
                refine absurd (List.IsPrefix.isInfix ?_) hfirst
                have hmarkHead : mark <+: c :: t := ⟨rest', hstart.symm⟩
                have hbefore : d :: before ++ mark.dropLast <+: c :: t := by
                  rw [hsplit]
                  exact (List.prefix_append_right_inj _).mpr
                    ((List.dropLast_prefix mark).trans (List.prefix_append mark rest))
                refine List.prefix_of_prefix_length_le hmarkHead hbefore ?_
                rw [List.length_append, List.length_dropLast, List.length_cons]
                omega
      | none =>
          have hnot : ¬mark <+: c :: t := by
            rintro ⟨rest', hrest'⟩
            rw [after?_eq_some_iff.mpr hrest'.symm] at hafter
            cases hafter
          constructor
          · intro h
            obtain ⟨⟨before', rest'⟩, hsplit, hpair⟩ := Option.map_eq_some_iff.mp h
            obtain ⟨rfl, rfl⟩ := Prod.mk.inj hpair
            obtain ⟨rfl, hfirst⟩ := ih.mp hsplit
            refine ⟨rfl, ?_⟩
            intro hinfix
            rcases List.infix_cons_iff.mp hinfix with hhead | hinfix
            · refine hnot (hhead.trans ?_)
              exact (List.prefix_append_right_inj (c :: before')).mpr
                ((List.dropLast_prefix mark).trans (List.prefix_append mark rest'))
            · exact hfirst hinfix
          · rintro ⟨hsplit, hfirst⟩
            cases before with
            | nil => exact absurd ⟨rest, hsplit.symm⟩ hnot
            | cons d before =>
                obtain ⟨rfl, rfl⟩ := List.cons.inj hsplit
                have hfirst' : ¬mark <:+: before ++ mark.dropLast := fun hinfix =>
                  hfirst (List.infix_cons_iff.mpr (Or.inr hinfix))
                exact Option.map_eq_some_iff.mpr ⟨(before, rest), ih.mpr ⟨rfl, hfirst'⟩, rfl⟩

/-- Where a text is not split at a mark, the mark does not occur. -/
theorem splitAt?_eq_none_iff {mark t : Text} (hmark : mark ≠ []) :
    splitAt? mark t = none ↔ ¬mark <:+: t := by
  induction t with
  | nil =>
      have hempty : mark.isEmpty = false := by simpa using hmark
      simp [splitAt?, hempty, hmark]
  | cons c t ih =>
      rw [splitAt?, List.infix_cons_iff]
      cases hafter : after? mark (c :: t) with
      | some rest =>
          have hstart : mark <+: c :: t := ⟨rest, (after?_eq_some_iff.mp hafter).symm⟩
          simp [hstart]
      | none =>
          have hnot : ¬mark <+: c :: t := by
            rintro ⟨rest, hrest⟩
            rw [after?_eq_some_iff.mpr hrest.symm] at hafter
            cases hafter
          simp [hnot, ih]

/-- A mark that occurs in a text has a first occurrence. -/
theorem exists_first_of_infix {mark t : Text} (hmark : mark ≠ []) (h : mark <:+: t) :
    ∃ before rest, t = before ++ (mark ++ rest) ∧ ¬mark <:+: before ++ mark.dropLast := by
  cases hsplit : splitAt? mark t with
  | some p => exact ⟨p.1, p.2, (splitAt?_eq_some_iff hmark).mp hsplit⟩
  | none => exact absurd h ((splitAt?_eq_none_iff hmark).mp hsplit)

/-! ### What is left -/

section

variable {t rest : Text}

/-- What is left behind a head is an end of the text. -/
theorem suffix_of_after? {head : Text} (h : after? head t = some rest) : rest <:+ t :=
  ⟨head, (after?_eq_some_iff.mp h).symm⟩

/-- What is left behind a character that was read up to is an end of the text. -/
theorem suffix_of_readUpTo? {c : Char} {head : Text} (h : readUpTo? c t = some (head, rest)) :
    rest <:+ t := by
  obtain ⟨-, rfl⟩ := readUpTo?_eq_some_iff.mp h
  exact ⟨head ++ [c], by simp⟩

/-- What is left behind blanks is an end of the text. -/
theorem suffix_of_afterBlanks? (h : afterBlanks? t = some rest) : rest <:+ t := by
  obtain ⟨blanks, -, -, rfl, -⟩ := afterBlanks?_eq_some_iff.mp h
  exact List.suffix_append _ _

/-- What is left behind a word is an end of the text. -/
theorem suffix_of_readWord? {word : Text} (h : readWord? t = some (word, rest)) : rest <:+ t := by
  obtain ⟨-, -, rfl, -⟩ := readWord?_eq_some_iff.mp h
  exact List.suffix_append _ _

end

/-! ### Fragments -/

variable {α : Type} {read : Reader α}

/-- A scan passes over characters that were read. -/
theorem hitsFrom_skip (behind t u : Text) :
    hitsFrom read behind t.length (t ++ u) = hitsFrom read (t.reverse ++ behind) 0 u := by
  induction t generalizing behind with
  | nil => rfl
  | cons c t ih =>
      rw [List.cons_append, List.length_cons, hitsFrom, ih, List.reverse_cons, List.append_assoc]
      rfl

/-- Where nothing can be read the scan goes on with the next character. -/
theorem hitsFrom_cons_of_none {behind : Text} {c : Char} {t : Text}
    (h : read behind.head? (c :: t) = none) :
    hitsFrom read behind 0 (c :: t) = hitsFrom read (c :: behind) 0 t := by
  rw [hitsFrom, h]

/-- A fragment at the head of a text is found, and the scan goes on behind it. -/
theorem hitsFrom_fragment {behind source ahead : Text} {value : α} (hne : source ≠ [])
    (h : read behind.head? (source ++ ahead) = some (value, ahead)) :
    hitsFrom read behind 0 (source ++ ahead) =
      ⟨behind, source, value, ahead⟩ :: hitsFrom read (source.reverse ++ behind) 0 ahead := by
  cases source with
  | nil => exact absurd rfl hne
  | cons c source =>
      have hsize : (c :: (source ++ ahead)).length - ahead.length = source.length + 1 := by
        rw [List.length_cons, List.length_append]
        omega
      rw [List.cons_append] at h
      rw [List.cons_append, hitsFrom, h]
      simp only [hsize, Nat.add_sub_cancel, hitsFrom_skip]
      simp

/-- Where nothing can be read at any place, nothing is found. -/
theorem hitsFrom_eq_nil {t : Text} (h : ∀ before s, s <:+ t → s ≠ [] → read before s = none)
    (behind : Text) (skip : Nat) : hitsFrom read behind skip t = [] := by
  induction t generalizing behind skip with
  | nil => rw [hitsFrom]
  | cons c t ih =>
      have htail : ∀ before s, s <:+ t → s ≠ [] → read before s = none := fun before s hs =>
        h before s (hs.trans (List.suffix_cons c t))
      cases skip with
      | succ skip => exact ih htail _ _
      | zero =>
          rw [hitsFrom_cons_of_none (h _ _ (List.suffix_refl _) (List.cons_ne_nil c t))]
          exact ih htail _ _

/-- The fragments of an append: those of the first text, each with the second behind it, and then
those of the second, when the reader reads at every place of the first text what it reads there in
front of the second. -/
theorem hitsFrom_append {t u : Text}
    (hread : ∀ before s, s <:+ t → s ≠ [] →
      read before (s ++ u) = (read before s).map fun p => (p.1, p.2 ++ u))
    (behind : Text) {skip : Nat} (hskip : skip ≤ t.length) :
    hitsFrom read behind skip (t ++ u) =
      (hitsFrom read behind skip t).map (fun h => { h with ahead := h.ahead ++ u }) ++
        hitsFrom read (t.reverse ++ behind) 0 u := by
  induction t generalizing behind skip with
  | nil =>
      obtain rfl : skip = 0 := Nat.le_zero.mp hskip
      rw [hitsFrom]
      rfl
  | cons c t ih =>
      have htail : ∀ before s, s <:+ t → s ≠ [] →
          read before (s ++ u) = (read before s).map fun p => (p.1, p.2 ++ u) := fun before s hs =>
        hread before s (hs.trans (List.suffix_cons c t))
      have hbehind : (c :: t).reverse ++ behind = t.reverse ++ c :: behind := by simp
      rw [hbehind]
      cases skip with
      | succ skip => exact ih htail _ (Nat.le_of_succ_le_succ hskip)
      | zero =>
          have hhead := hread behind.head? (c :: t) (List.suffix_refl _) (List.cons_ne_nil c t)
          rw [List.cons_append] at hhead ⊢
          rw [hitsFrom, hitsFrom, hhead]
          cases hvalue : read behind.head? (c :: t) with
          | none => exact ih htail _ (Nat.zero_le _)
          | some p =>
              obtain ⟨value, ahead⟩ := p
              have hsize : (c :: (t ++ u)).length - (ahead ++ u).length =
                  (c :: t).length - ahead.length := by
                simp only [List.length_cons, List.length_append]
                omega
              have htake : (c :: (t ++ u)).take ((c :: t).length - ahead.length) =
                  (c :: t).take ((c :: t).length - ahead.length) := by
                rw [← List.cons_append]
                exact List.take_append_of_le_length (Nat.sub_le _ _)
              have hrest : (c :: t).length - ahead.length - 1 ≤ t.length := by
                rw [List.length_cons]
                omega
              simp only [Option.map_some, hsize, htake, ih htail _ hrest, List.map_cons,
                List.cons_append]

/-! ### What is taken out -/

section

-- What a reader reads at a place may depend on the text behind it only.
variable (hread : ∀ before t, read before t = read none t)
include hread

/-- Where fragments are taken out, the character before the text makes no difference. -/
theorem withoutFrom_eq_without (before : Option Char) (t : Text) :
    withoutFrom read before 0 t = without read t := by
  cases t with
  | nil => rfl
  | cons c t => rw [without, withoutFrom, withoutFrom, hread]

/-- Text that is passed over is left out. -/
theorem withoutFrom_length_append (before : Option Char) (s t : Text) :
    withoutFrom read before s.length (s ++ t) = without read t := by
  induction s generalizing before with
  | nil => exact withoutFrom_eq_without hread before t
  | cons c s ih => exact ih (some c)

/-- A fragment in front of a text is taken out. -/
theorem without_fragment_append {s t : Text} {value : α} (hne : s ≠ [])
    (h : read none (s ++ t) = some (value, t)) : without read (s ++ t) = without read t := by
  obtain ⟨c, s, rfl⟩ := List.exists_cons_of_ne_nil hne
  have hsize : (c :: (s ++ t)).length - t.length - 1 = s.length := by
    rw [List.length_cons, List.length_append]
    omega
  rw [List.cons_append] at h ⊢
  rw [without, withoutFrom, h]
  simp only [hsize]
  exact withoutFrom_length_append hread (some c) s t

/-- Text in front of a text stays if it is without the character with which each fragment begins. -/
theorem without_append {mark : Char} (hmark : ∀ c t, c ≠ mark → read none (c :: t) = none)
    {s : Text} (hs : mark ∉ s) (t : Text) : without read (s ++ t) = s ++ without read t := by
  induction s with
  | nil => rfl
  | cons c s ih =>
      obtain ⟨hc, hs⟩ := not_or.mp (mt List.mem_cons.mpr hs)
      rw [List.cons_append, without, withoutFrom, hmark c _ (Ne.symm hc)]
      simp only [withoutFrom_eq_without hread, ih hs, List.cons_append]

end

end PageLint.Text
