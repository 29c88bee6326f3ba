import PageLint.Text.Basic

/-!
# UTF-8

Files hold bytes; a text is read from them as UTF-8. A character takes one to four bytes: the first
says how many follow, and each of those carries six bits. A spelling that is longer than necessary,
and one of a code point that is no character, is refused.

* `Text.utf8`: the bytes of a text.
* `Utf8.decode`: the longest text at the head of some bytes, and the bytes that follow it.
* `Text.ofUtf8?`: the text that bytes spell as a whole.

## Main results

* `Utf8.readChar?_length`: reading a character takes at least one byte.
-/

namespace PageLint

/-- The bytes of a file. -/
abbrev Bytes := List UInt8

/-- The UTF-8 form of a text. -/
def Text.utf8 (t : Text) : Bytes := t.flatMap String.utf8EncodeChar

namespace Utf8

/-- What the first byte of a character says: the number of bytes that follow, the bits it carries,
and the least code point that takes so many bytes. -/
def lead? (b : UInt8) : Option (Nat × Nat × Nat) :=
  let n := b.toNat
  if n < 0x80 then some (0, n, 0)
  else if n < 0xC0 then none
  else if n < 0xE0 then some (1, n % 32, 0x80)
  else if n < 0xF0 then some (2, n % 16, 0x800)
  else if n < 0xF8 then some (3, n % 8, 0x10000)
  else none

/-- Reads the further bytes of a character, of which each adds six bits. -/
def readTail? : (count value : Nat) → Bytes → Option (Nat × Bytes)
  | 0, value, t => some (value, t)
  | _ + 1, _, [] => none
  | n + 1, value, b :: t =>
    if b.toNat / 64 = 2 then readTail? n (value * 64 + b.toNat % 64) t else none

/-- Reads one character. -/
def readChar? : Bytes → Option (Char × Bytes)
  | [] => none
  | b :: t => do
    let (count, bits, least) ← lead? b
    let (value, rest) ← readTail? count bits t
    if least ≤ value ∧ value.isValidChar then some (Char.ofNat value, rest) else none

/-- Reading the further bytes of a character does not lengthen what is left. -/
theorem readTail?_length {count value n : Nat} {t rest : Bytes}
    (h : readTail? count value t = some (n, rest)) : rest.length ≤ t.length := by
  fun_induction readTail? count value t with
  | case1 => simp_all
  | case2 => simp at h
  | case3 n value b t _ ih => exact Nat.le_succ_of_le (ih h)
  | case4 => simp at h

/-- A character takes one byte at least. -/
theorem readChar?_length {t rest : Bytes} {c : Char} (h : readChar? t = some (c, rest)) :
    rest.length < t.length := by
  cases t with
  | nil => simp [readChar?] at h
  | cons b t =>
    simp only [readChar?, Option.bind_eq_bind, Option.bind_eq_some_iff] at h
    obtain ⟨⟨count, bits, least⟩, -, ⟨value, rest'⟩, htail, h⟩ := h
    have hle := readTail?_length htail
    split at h
    · simp only [Option.some.injEq, Prod.mk.injEq] at h
      rw [← h.2]
      exact Nat.lt_succ_of_le hle
    · cases h

/-- The longest text that the bytes begin with, and the bytes that follow it. -/
def decode (t : Bytes) : Text × Bytes :=
  match h : readChar? t with
  | some (c, rest) =>
    have := readChar?_length h
    let (text, unread) := decode rest
    (c :: text, unread)
  | none => ([], t)
termination_by t.length

end Utf8

/-- The text that the bytes spell. -/
def Text.ofUtf8? (t : Bytes) : Option Text :=
  match Utf8.decode t with
  | (text, []) => some text
  | _ => none

end PageLint
