import Mathlib.Algebra.Group.Nat.Defs
import PageLint.Text.Utf8

/-!
# The order of texts and of their bytes

Strings are compared character by character. Their UTF-8 forms are compared byte by byte, and the
two orders are the same: the first byte of a character says how many bytes it takes, more of them
for larger code points, and of two characters with equally many bytes the larger one has the larger
byte at the first place where they differ.

## Main results

* `Utf8.precedes_encode`: the bytes of the smaller of two characters come first, whatever follows.
* `Text.utf8_le_iff`: the order of strings **is the order of their bytes**.
-/

namespace PageLint

namespace Utf8

/-- Bytes come before others whatever follows either: they differ, and the first difference
decides. -/
def Precedes (s t : Bytes) : Prop := ∀ x y : Bytes, s ++ x < t ++ y

/-- The first byte decides where it differs. -/
theorem Precedes.head {m n : Nat} (h : m < n) (hn : n < 256) (s t : Bytes) :
    Precedes (UInt8.ofNat m :: s) (UInt8.ofNat n :: t) := by
  intro x y
  refine List.cons_lt_cons_iff.mpr (Or.inl ?_)
  rw [UInt8.lt_iff_toNat_lt, UInt8.toNat_ofNat', UInt8.toNat_ofNat']
  omega

/-- Where the first byte is the same, the rest decides. -/
theorem Precedes.cons {m n : Nat} (h : m = n) {s t : Bytes} (hst : Precedes s t) :
    Precedes (UInt8.ofNat m :: s) (UInt8.ofNat n :: t) := by
  intro x y
  exact List.cons_lt_cons_iff.mpr (Or.inr ⟨by rw [h], hst x y⟩)

/-- The last `n` bytes of a character with more than `n` bytes: six bits in each, the highest
first. -/
def continuation (v : Nat) : (n : Nat) → Bytes
  | 0 => []
  | n + 1 => UInt8.ofNat (v / 64 ^ n % 64 + 128) :: continuation v n

/-- Where the higher bits are the same, the last bytes decide. -/
theorem precedes_continuation {v w : Nat} (h : v < w) {n : Nat} (hhigh : v / 64 ^ n = w / 64 ^ n) :
    Precedes (continuation v n) (continuation w n) := by
  induction n with
  | zero =>
      rw [Nat.pow_zero, Nat.div_one, Nat.div_one] at hhigh
      exact absurd hhigh (Nat.ne_of_lt h)
  | succ n ih =>
      by_cases hsame : v / 64 ^ n = w / 64 ^ n
      · exact Precedes.cons (by rw [hsame]) (ih hsame)
      · have hle : v / 64 ^ n ≤ w / 64 ^ n := Nat.div_le_div_right (Nat.le_of_lt h)
        rw [Nat.pow_succ, ← Nat.div_div_eq_div_mul, ← Nat.div_div_eq_div_mul] at hhigh
        exact Precedes.head (by omega) (by omega) _ _

/-- A first byte that carries the highest bits, and the bytes that carry the others. -/
theorem precedes_lead {v w lead n : Nat} (h : v < w) (hw : lead + w / 64 ^ n < 256) :
    Precedes (UInt8.ofNat (lead + v / 64 ^ n) :: continuation v n)
      (UInt8.ofNat (lead + w / 64 ^ n) :: continuation w n) := by
  by_cases hsame : v / 64 ^ n = w / 64 ^ n
  · exact Precedes.cons (by rw [hsame]) (precedes_continuation h hsame)
  · have hle : v / 64 ^ n ≤ w / 64 ^ n := Nat.div_le_div_right (Nat.le_of_lt h)
    exact Precedes.head (by omega) hw _ _

/-- A character from `least` up to `limit` is a first byte that counts from `lead` and `n` further
bytes. -/
def HasForm (c : Char) (n lead least limit : Nat) : Prop :=
  least ≤ c.toNat ∧ c.toNat < limit ∧
    String.utf8EncodeChar c = UInt8.ofNat (lead + c.toNat / 64 ^ n) :: continuation c.toNat n

/-- The four forms of a character. -/
theorem hasForm (c : Char) :
    HasForm c 0 0 0 0x80 ∨ HasForm c 1 0xC0 0x80 0x800 ∨ HasForm c 2 0xE0 0x800 0x10000 ∨
      HasForm c 3 0xF0 0x10000 0x110000 := by
  have hlimit : c.toNat < 0x110000 := by
    rcases c.valid with h | ⟨-, h⟩
    · exact Nat.lt_trans h (by decide)
    · exact h
  simp only [HasForm, continuation, String.utf8EncodeChar]
  rw [show c.val.toNat = c.toNat from rfl]
  by_cases h1 : c.toNat ≤ 0x7f
  · refine Or.inl ⟨Nat.zero_le _, by omega, ?_⟩
    rw [if_pos h1, Nat.pow_zero, Nat.div_one, Nat.zero_add]
  rw [if_neg h1]
  by_cases h2 : c.toNat ≤ 0x7ff
  · refine Or.inr (Or.inl ⟨by omega, by omega, ?_⟩)
    rw [if_pos h2, show c.toNat / 64 % 0x20 + 0xc0 = 0xC0 + c.toNat / 64 ^ 1 by omega]
    simp
  rw [if_neg h2]
  by_cases h3 : c.toNat ≤ 0xffff
  · refine Or.inr (Or.inr (Or.inl ⟨by omega, by omega, ?_⟩))
    rw [if_pos h3, show c.toNat / 4096 % 0x10 + 0xe0 = 0xE0 + c.toNat / 64 ^ 2 by omega]
    simp
  · refine Or.inr (Or.inr (Or.inr ⟨by omega, hlimit, ?_⟩))
    rw [if_neg h3, show c.toNat / 262144 % 0x08 + 0xf0 = 0xF0 + c.toNat / 64 ^ 3 by omega]
    simp

/-- The bytes of the smaller of two characters come first. -/
theorem precedes_encode {c d : Char} (h : c < d) :
    Precedes (String.utf8EncodeChar c) (String.utf8EncodeChar d) := by
  have hlt : c.toNat < d.toNat := h
  rcases hasForm c with ⟨hc, hc', ec⟩ | ⟨hc, hc', ec⟩ | ⟨hc, hc', ec⟩ | ⟨hc, hc', ec⟩ <;>
  rcases hasForm d with ⟨hd, hd', ed⟩ | ⟨hd, hd', ed⟩ | ⟨hd, hd', ed⟩ | ⟨hd, hd', ed⟩ <;>
  rw [ec, ed]
  all_goals first
    | exact precedes_lead hlt (by omega)
    | exact Precedes.head (by omega) (by omega) _ _

end Utf8

namespace Text

/-- A smaller text has the smaller UTF-8 form. -/
theorem utf8_lt_utf8 {s t : Text} (h : s < t) : s.utf8 < t.utf8 := by
  induction h with
  | @nil c t =>
      rw [utf8, utf8, List.flatMap_nil, List.flatMap_cons]
      rcases Utf8.hasForm c with ⟨-, -, ec⟩ | ⟨-, -, ec⟩ | ⟨-, -, ec⟩ | ⟨-, -, ec⟩ <;>
        exact ec ▸ List.nil_lt_cons _ _
  | rel hcd => exact Utf8.precedes_encode hcd _ _
  | cons _ ih => exact List.append_left_lt ih

/-- Texts are ordered as their UTF-8 forms. -/
theorem utf8_lt_iff {s t : Text} : s.utf8 < t.utf8 ↔ s < t := by
  refine ⟨fun h => ?_, utf8_lt_utf8⟩
  rcases Std.lt_trichotomy s t with hst | rfl | hts
  · exact hst
  · exact absurd h (List.lt_irrefl _)
  · exact absurd (utf8_lt_utf8 hts) (List.lt_asymm h)

/-- Strings are ordered as their UTF-8 forms, byte by byte. -/
theorem utf8_le_iff {s t : String} : utf8 s.toList ≤ utf8 t.toList ↔ s ≤ t := by
  rw [← List.not_lt, utf8_lt_iff, ← String.lt_iff, String.not_lt]

end Text

end PageLint
