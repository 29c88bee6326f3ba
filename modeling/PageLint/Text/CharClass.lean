import PageLint.Text.Basic
import PageLint.Text.WordRanges

/-!
# Classes of characters

Blank characters, word characters and alphanumeric characters, over all of Unicode, and the
operations on texts that are stated with them: trimming and splitting into words.

* `isSpace`: the characters with the property White_Space.
* `isWordChar`: letters, marks, decimal digits, connector punctuation and the two joiners.
* `isAlphanumeric`: alphabetic characters and numbers.
* `isAsciiSpace`, `isAsciiAlphanumeric`: the same questions within ASCII.

## Main results

* `not_isSpace_of_isWordChar`: no word character is blank.
-/

namespace PageLint

/-- The code points with the property White_Space. -/
def spaceRanges : List (Nat × Nat) :=
  [(9, 13), (32, 32), (133, 133), (160, 160), (5760, 5760), (8192, 8202), (8232, 8233),
   (8239, 8239), (8287, 8287), (12288, 12288)]

/-- A blank character: space, line end, tab and their like in all of Unicode. -/
def isSpace (c : Char) : Bool := CharRanges.holds c.toNat spaceRanges

/-- A blank character of ASCII: space, tab, line feed, form feed, carriage return. -/
def isAsciiSpace (c : Char) : Bool :=
  c = ' ' || c = '\t' || c = '\n' || c = '\x0c' || c = '\r'

/-- A letter or digit of ASCII. -/
def isAsciiAlphanumeric (c : Char) : Bool := c.isAlphanum

/-- A character that words are made of. -/
def isWordChar (c : Char) : Bool := CharRanges.holds c.toNat CharRanges.wordRanges

/-- A letter or number of any script. -/
def isAlphanumeric (c : Char) : Bool := CharRanges.holds c.toNat CharRanges.alphanumericRanges

/-! ### Words do not hold blanks -/

/-- The code points with the property White_Space, one by one. -/
def spaceCodePoints : List Nat :=
  spaceRanges.flatMap fun r => (List.range (r.2 + 1 - r.1)).map (r.1 + ·)

/-- The code point of a blank is listed. -/
theorem mem_spaceCodePoints {c : Char} (h : isSpace c = true) : c.toNat ∈ spaceCodePoints := by
  simp only [isSpace, CharRanges.holds, List.any_eq_true, Bool.and_eq_true, decide_eq_true_eq] at h
  obtain ⟨r, hr, hlo, hhi⟩ := h
  exact List.mem_flatMap.2 ⟨r, hr, List.mem_map.2 ⟨c.toNat - r.1, List.mem_range.2 (by omega), by omega⟩⟩

/-- The code points of blanks are in no range of word characters. -/
theorem spaceCodePoints_not_word :
    ∀ n ∈ spaceCodePoints, CharRanges.holds n CharRanges.wordRanges = false := by decide +kernel

/-- No word character is blank. -/
theorem not_isSpace_of_isWordChar {c : Char} (h : isWordChar c = true) : isSpace c = false := by
  cases hs : isSpace c with
  | false => rfl
  | true =>
    have := spaceCodePoints_not_word _ (mem_spaceCodePoints hs)
    rw [isWordChar, this] at h
    exact absurd h (by simp)

/-- The blanks of ASCII are blank. -/
theorem isSpace_of_isAsciiSpace {c : Char} (h : isAsciiSpace c = true) : isSpace c = true := by
  simp only [isAsciiSpace, Bool.or_eq_true, decide_eq_true_eq] at h
  rcases h with (((rfl | rfl) | rfl) | rfl) | rfl <;> decide

namespace Text

/-- The text without blanks at its end. -/
def trimEnd (t : Text) : Text := dropEndWhile isSpace t

/-- The text without blanks at its start and end. -/
def trim (t : Text) : Text := stripWhile isSpace t

/-- Is every character of the text blank? -/
def isBlank (t : Text) : Bool := t.all isSpace

/-- The words of a text that is being read: `word` holds the characters of the current word, last
one first. -/
def wordsFrom (word : Text) : Text → List Text
  | [] => if word.isEmpty then [] else [word.reverse]
  | c :: t =>
    if isSpace c then
      if word.isEmpty then wordsFrom [] t else word.reverse :: wordsFrom [] t
    else wordsFrom (c :: word) t

/-- The words of the text: its longest parts without blanks, in order. -/
def words (t : Text) : List Text := wordsFrom [] t

end Text

end PageLint
