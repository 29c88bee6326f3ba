import PageLint.Proofs.Calendar
import PageLint.Proofs.Splitting

/-!
# Written months

The form `Mon YYYY` in which months are written, as a relation between months and texts
(`Month.IsWritten`): a text of two words, the name of the month in any letter case and four digits
for its year. Reading a month is deciding this relation (`Month.ofText?_eq_some_iff`), and the label
of a month is one of the texts it is written as, so labels are read back.

## Main results

* `Month.ofText?_eq_some_iff`: **a text is read as a month** exactly if the month is written so.
* `Month.ofText?_label`: the label of a month with a year of four digits is read back.
* `Month.label_inj`: labels tell such months apart.
-/

namespace PageLint.Month

/-! ### Names -/

/-- A character whose lower case is a letter is a letter. -/
theorem isAlpha_of_toLower {c : Char} (h : c.toLower.isAlpha = true) : c.isAlpha = true := by
  by_cases hupper : c.val ≥ 'A'.val ∧ c.val ≤ 'Z'.val
  · have hisUpper : c.isUpper = true := decide_eq_true hupper
    have halpha : c.isAlpha = (c.isUpper || c.isLower) := rfl
    rw [halpha, hisUpper, Bool.true_or]
  · have hsame : c.toLower = c := dif_neg hupper
    rwa [hsame] at h

/-- The names of months are told apart without regard to letter case. -/
theorem names_inj : ∀ i j : Fin 12, names[i.val].toList.map Char.toLower =
    names[j.val].toList.map Char.toLower → i = j := by
  decide +kernel

/-- A month of the year is read from its name in any letter case. -/
theorem indexOf?_eq_some_iff {t : Text} {i : Fin 12} :
    indexOf? t = some i ↔ t.map Char.toLower = names[i.val].toList.map Char.toLower := by
  constructor
  · intro h
    have hfound := List.find?_some h
    exact (beq_iff_eq.mp hfound).symm
  · intro h
    have hfound : (indexOf? t).isSome = true :=
      List.find?_isSome.mpr ⟨i, List.mem_finRange i, by rw [h, beq_self_eq_true]⟩
    obtain ⟨j, hj⟩ := Option.isSome_iff_exists.mp hfound
    have hsame := List.find?_some hj
    rw [hj, names_inj j i ((beq_iff_eq.mp hsame).trans h)]

/-- A text with the letters of a month's name consists of three letters. -/
theorem letters_of_name {t : Text} {i : Fin 12}
    (h : t.map Char.toLower = names[i.val].toList.map Char.toLower) :
    t.length = 3 ∧ t.all Char.isAlpha = true := by
  have hname : ∀ i : Fin 12, names[i.val].toList.length = 3 ∧
      (names[i.val].toList.map Char.toLower).all Char.isAlpha = true := by
    decide +kernel
  obtain ⟨hlength, hall⟩ := hname i
  refine ⟨?_, ?_⟩
  · rw [← hlength, ← List.length_map, h, List.length_map]
  · rw [← h, List.all_map] at hall
    rw [List.all_eq_true] at hall ⊢
    exact fun c hc => isAlpha_of_toLower (hall c hc)

/-! ### Years -/

/-- Digits are read as the number that they spell. -/
theorem ofDigits_eq (t : Text) : ofDigits t = Nat.ofDigitChars 10 t 0 := by
  have hstep : (fun (n : Nat) (c : Char) => n * 10 + (c.toNat - '0'.toNat)) =
      fun n c => 10 * n + (c.toNat - '0'.toNat) := by
    funext n c
    rw [Nat.mul_comm]
  rw [ofDigits, hstep, Nat.ofDigitChars_eq_foldl]

/-- A number is less than the power of ten with as many zeros as it has digits. -/
theorem ofDigitChars_lt {t : Text} (h : ∀ c ∈ t, c.isDigit = true) :
    Nat.ofDigitChars 10 t 0 < 10 ^ t.length := by
  induction t with
  | nil => simp
  | cons c t ih =>
      obtain ⟨hc, ht⟩ := List.forall_mem_cons.mp h
      have hdigit : c.toNat - '0'.toNat ≤ 9 := by
        have hle : c.toNat ≤ '9'.toNat := by
          simp only [Char.isDigit, Bool.and_eq_true, decide_eq_true_eq] at hc
          exact hc.2
        have hnine : '9'.toNat - '0'.toNat = 9 := by decide
        omega
      have hrest := ih ht
      rw [Nat.ofDigitChars_cons, Nat.ofDigitChars_eq_ofDigitChars_zero, List.length_cons, Nat.pow_succ]
      have hmul : 10 ^ t.length * (10 * 0 + (c.toNat - '0'.toNat)) ≤ 10 ^ t.length * 9 :=
        Nat.mul_le_mul_left _ (by omega)
      omega

/-- A number is padded with zeros in front of its digits. -/
theorem toList_padded (width n : Nat) : (padded width n).toList =
    List.replicate (width - (Nat.toDigits 10 n).length) '0' ++ Nat.toDigits 10 n :=
  String.toList_ofList

/-- A number is written in digits, and filled up with digits. -/
theorem isDigit_of_mem_padded {width n : Nat} {c : Char}
    (h : c ∈ (padded width n).toList) : c.isDigit = true := by
  rw [toList_padded] at h
  rcases List.mem_append.mp h with h | h
  · rw [List.eq_of_mem_replicate h]
    decide
  · exact Nat.isDigit_of_mem_toDigits (by decide) (by decide) h

/-- A number that is filled up with zeros stays the same. -/
theorem ofDigitChars_padded (width n : Nat) :
    Nat.ofDigitChars 10 (padded width n).toList 0 = n := by
  rw [toList_padded, Nat.ofDigitChars_append, Nat.ofDigitChars_replicate_zero, Nat.mul_zero,
    Nat.ofDigitChars_ten_toDigits]

/-- A number with no more digits than the width is written in exactly as many. -/
theorem length_padded {width n : Nat} (hwidth : 0 < width) (h : n < 10 ^ width) :
    (padded width n).toList.length = width := by
  have hle := (Nat.length_toDigits_le_iff (by decide) hwidth).mpr h
  rw [toList_padded, List.length_append, List.length_replicate]
  omega

/-! ### Months -/

/-- Is the text the month, written as `Mon YYYY`? It has two words: the three letters of the month's
English name, in any letter case, and the four digits of its year. -/
def IsWritten (m : Month) (t : Text) : Prop :=
  ∃ mon year : Text, t.Spaced [mon, year] ∧
    mon.map Char.toLower = m.name.toList.map Char.toLower ∧
    year.length = 4 ∧ (∀ c ∈ year, c.isDigit = true) ∧ Nat.ofDigitChars 10 year 0 = m.year

/-- **A text is read as a month** exactly if the month is written so. -/
theorem ofText?_eq_some_iff {t : Text} {m : Month} : ofText? t = some m ↔ m.IsWritten t := by
  constructor
  · intro h
    rw [ofText?] at h
    split at h
    · next mon year hwords =>
      split at h
      · next hform =>
        obtain ⟨-, -, hlength, hdigits⟩ := hform
        obtain ⟨i, hindex, rfl⟩ := Option.map_eq_some_iff.mp h
        refine ⟨mon, year, Text.words_eq_iff.mp hwords, indexOf?_eq_some_iff.mp hindex, hlength, ?_,
          (ofDigits_eq year).symm⟩
        simpa using hdigits
      · cases h
    · cases h
  · rintro ⟨mon, year, hspaced, hname, hlength, hdigits, hyear⟩
    obtain ⟨hthree, halpha⟩ := letters_of_name hname
    have hall : year.all Char.isDigit = true := by simpa using hdigits
    rw [ofText?, Text.words_eq_iff.mpr hspaced]
    simp only
    rw [if_pos ⟨hthree, halpha, hlength, hall⟩, indexOf?_eq_some_iff.mpr hname, ofDigits_eq, hyear]
    rfl

/-- A text is written for one month at most. -/
theorem IsWritten.unique {t : Text} {m m' : Month} (h : m.IsWritten t) (h' : m'.IsWritten t) :
    m = m' :=
  Option.some.inj ((ofText?_eq_some_iff.mpr h).symm.trans (ofText?_eq_some_iff.mpr h'))

/-- Years that are written have four digits. -/
theorem IsWritten.year_lt {t : Text} {m : Month} (h : m.IsWritten t) : m.year < 10000 := by
  obtain ⟨mon, year, -, -, hlength, hdigits, hyear⟩ := h
  have hlt := ofDigitChars_lt hdigits
  rwa [hyear, hlength] at hlt

/-- A month is read exactly from the texts in which one is written. -/
theorem isSome_ofText?_iff {t : Text} :
    (ofText? t).isSome = true ↔ ∃ m : Month, m.IsWritten t := by
  simp only [Option.isSome_iff_exists, ofText?_eq_some_iff]

instance (t : Text) : Decidable (∃ m : Month, m.IsWritten t) :=
  decidable_of_iff ((ofText? t).isSome = true) isSome_ofText?_iff

/-! ### Labels -/

/-- No digit is blank. -/
theorem not_isSpace_of_isDigit {c : Char} (h : c.isDigit = true) : isSpace c = false := by
  have hnot : ∀ n ∈ spaceCodePoints, ¬('0'.toNat ≤ n ∧ n ≤ '9'.toNat) := by decide
  cases hspace : isSpace c with
  | false => rfl
  | true =>
      simp only [Char.isDigit, Bool.and_eq_true, decide_eq_true_eq] at h
      exact absurd h (hnot c.toNat (mem_spaceCodePoints hspace))

/-- The name of a month has three letters. -/
theorem length_name (m : Month) : m.name.toList.length = 3 := by
  have hall : ∀ i : Fin 12, names[i.val].toList.length = 3 := by decide
  exact hall m.index

/-- The name of a month has no blanks. -/
theorem not_isSpace_of_mem_name {m : Month} {c : Char} (h : c ∈ m.name.toList) :
    isSpace c = false := by
  have hall : ∀ i : Fin 12, names[i.val].toList.all (!isSpace ·) = true := by decide
  simpa using List.all_eq_true.mp (hall m.index) c h

/-- A month is shown as its name, a blank and its year. -/
theorem toList_label (m : Month) :
    m.label.toList = m.name.toList ++ ' ' :: (padded 4 m.year).toList := by
  simp [label]

/-- The label of a month is one of the texts that the month is written as. -/
theorem isWritten_label {m : Month} (h : m.year < 10000) : m.IsWritten m.label.toList := by
  have hlength := length_padded (n := m.year) (by decide : 0 < 4) h
  refine ⟨m.name.toList, (padded 4 m.year).toList, ?_, rfl, hlength,
    fun c hc => isDigit_of_mem_padded hc, ofDigitChars_padded 4 m.year⟩
  rw [toList_label]
  refine .pair ?_ (fun c hc => not_isSpace_of_mem_name hc) (by decide) ?_
    fun c hc => not_isSpace_of_isDigit (isDigit_of_mem_padded hc)
  · exact List.ne_nil_of_length_pos (by rw [length_name]; omega)
  · exact List.ne_nil_of_length_pos (by omega)

/-- **Labels are read back**, if the year has four digits. -/
theorem ofText?_label {m : Month} (h : m.year < 10000) : ofText? m.label.toList = some m :=
  ofText?_eq_some_iff.mpr (isWritten_label h)

/-- Labels tell months apart. -/
theorem label_inj {m m' : Month} (hm : m.year < 10000) (hm' : m'.year < 10000)
    (h : m.label = m'.label) : m = m' :=
  (isWritten_label hm).unique (h ▸ isWritten_label hm')

/-- A month is shown in eight characters, if its year has four digits at most. -/
theorem length_label {m : Month} (h : m.year < 10000) : m.label.toList.length = 8 := by
  rw [toList_label, List.length_append, List.length_cons, length_name,
    length_padded (by decide) h]

end PageLint.Month
