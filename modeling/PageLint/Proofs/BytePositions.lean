import PageLint.Proofs.ByteOrder
import PageLint.Proofs.TagSpans

/-!
# Positions in bytes

A text is cut at positions in bytes, and a position can be out of range or inside a character
(`Text.slice?` refuses both). Where a text is walked byte by byte, the walk reaches such positions: a
character beyond ASCII takes several bytes. None of these is a byte of ASCII, so a walk that stops at
bytes of ASCII only stops between characters.

A class of bytes follows a class of characters if all bytes of a character are in it or none
(`Utf8.Follows`). A walk over bytes of such a class comes to the end of the characters of the other
one (`Text.skipBytes_utf8`).

## Main results

* `Text.isSome_slice?_iff`: a text is cut at two of its positions in their order, and nowhere else.
* `Text.skipBytes_utf8`: where a walk over bytes ends.
* `Hit.isBoundary_start`, `Hit.isBoundary_stop`: fragments of a scan stand between characters.
* `Text.preceding?_utf8Size`: the text before a position, as far back as some bytes and to the start of
  a character.
-/

namespace PageLint

/-! ### Bytes of characters -/

namespace Utf8

/-- The byte of a character of ASCII. -/
def byte (c : Char) : UInt8 := UInt8.ofNat c.toNat

/-- Is this a byte of a character of ASCII with the property? -/
def isAscii (p : Char → Bool) (b : UInt8) : Bool := b.toNat < 0x80 && p (Char.ofNat b.toNat)

/-- The byte of a character of ASCII is its code point. -/
theorem toNat_byte {c : Char} (h : c.toNat < 0x80) : (byte c).toNat = c.toNat := by
  rw [byte, UInt8.toNat_ofNat']
  omega

/-- A byte of ASCII spells the character. -/
theorem ofNat_toNat_byte {c : Char} (h : c.toNat < 0x80) : Char.ofNat (byte c).toNat = c := by
  rw [toNat_byte h, Char.ofNat_toNat]

/-- A character of ASCII is a byte. -/
theorem encode_of_ascii {c : Char} (h : c.toNat < 0x80) : String.utf8EncodeChar c = [byte c] := by
  rcases hasForm c with ⟨-, -, hc⟩ | ⟨hle, -⟩ | ⟨hle, -⟩ | ⟨hle, -⟩
  · rw [hc, Nat.pow_zero, Nat.div_one, Nat.zero_add]
    rfl
  all_goals omega

/-- The last bytes of a character are not of ASCII. -/
theorem le_of_mem_continuation {v n : Nat} {b : UInt8} (h : b ∈ continuation v n) :
    0x80 ≤ b.toNat := by
  induction n with
  | zero => exact absurd h List.not_mem_nil
  | succ n ih =>
      rcases List.mem_cons.mp h with rfl | h
      · rw [UInt8.toNat_ofNat']
        omega
      · exact ih h

/-- The bytes of a character beyond ASCII are not of ASCII. -/
theorem le_of_mem_encode {c : Char} (hc : 0x80 ≤ c.toNat) {b : UInt8}
    (h : b ∈ String.utf8EncodeChar c) : 0x80 ≤ b.toNat := by
  rcases hasForm c with ⟨-, hlt, -⟩ | ⟨hle, hlt, hform⟩ | ⟨hle, hlt, hform⟩ | ⟨hle, hlt, hform⟩
  · omega
  all_goals
    rw [hform] at h
    rcases List.mem_cons.mp h with rfl | h
    · rw [UInt8.toNat_ofNat']
      omega
    · exact le_of_mem_continuation h

/-- A character has as many bytes as its size says. -/
theorem length_encode (c : Char) : (String.utf8EncodeChar c).length = c.utf8Size :=
  String.length_utf8EncodeChar c

/-- A character of ASCII is one byte. -/
theorem utf8Size_of_ascii {c : Char} (h : c.toNat < 0x80) : c.utf8Size = 1 := by
  rw [← length_encode, encode_of_ascii h]
  rfl

/-- Does the class of bytes hold all bytes of the characters of the other class, and no byte of
another character? -/
def Follows (q : UInt8 → Bool) (p : Char → Bool) : Prop :=
  ∀ c, ∀ b ∈ String.utf8EncodeChar c, q b = p c

/-- Bytes of ASCII follow a class of characters of ASCII. -/
theorem follows_isAscii {p : Char → Bool} (h : ∀ c, p c = true → c.toNat < 0x80) :
    Follows (isAscii p) p := by
  intro c b hb
  by_cases hc : c.toNat < 0x80
  · rw [encode_of_ascii hc] at hb
    obtain rfl := List.mem_singleton.mp hb
    rw [isAscii, ofNat_toNat_byte hc, toNat_byte hc, decide_eq_true hc, Bool.true_and]
  · have hle := le_of_mem_encode (Nat.le_of_not_lt hc) hb
    have hp : p c = false := Bool.eq_false_iff.mpr fun hp => hc (h c hp)
    rw [isAscii, decide_eq_false (Nat.not_lt.mpr hle), Bool.false_and, hp]

/-- What is outside a class follows what is outside the other one. -/
theorem Follows.not {q : UInt8 → Bool} {p : Char → Bool} (h : Follows q p) :
    Follows (!q ·) (!p ·) := fun c b hb => congrArg (!·) (h c b hb)

/-- A byte of a character is a given byte of ASCII if the character is. -/
theorem eq_byte_iff {c d : Char} (hd : d.toNat < 0x80) {b : UInt8}
    (hb : b ∈ String.utf8EncodeChar c) : b = byte d ↔ c = d := by
  constructor
  · rintro rfl
    by_cases hc : c.toNat < 0x80
    · rw [encode_of_ascii hc] at hb
      have hsame := congrArg UInt8.toNat (List.mem_singleton.mp hb)
      rw [toNat_byte hc, toNat_byte hd] at hsame
      exact Char.toNat_inj.mp hsame.symm
    · have hle := le_of_mem_encode (Nat.le_of_not_lt hc) hb
      rw [toNat_byte hd] at hle
      omega
  · rintro rfl
    rw [encode_of_ascii hd] at hb
    exact List.mem_singleton.mp hb

end Utf8

namespace Text

/-- The empty text has no bytes. -/
@[simp] theorem utf8_nil : utf8 [] = [] := rfl

/-- The bytes of the first character stand before those of the rest. -/
@[simp] theorem utf8_cons (c : Char) (t : Text) : utf8 (c :: t) = String.utf8EncodeChar c ++ utf8 t :=
  List.flatMap_cons

/-- The bytes of the first text stand before those of the second. -/
@[simp] theorem utf8_append (s t : Text) : utf8 (s ++ t) = utf8 s ++ utf8 t := List.flatMap_append

/-- The size of a text is the number of its bytes. -/
@[simp] theorem length_utf8 (t : Text) : (utf8 t).length = utf8Size t := by
  induction t with
  | nil => rfl
  | cons c t ih => rw [utf8_cons, List.length_append, Utf8.length_encode, ih, utf8Size_cons]

/-- A character at the end adds its bytes to those before it. -/
theorem utf8Size_concat (t : Text) (c : Char) : utf8Size (t ++ [c]) = utf8Size t + c.utf8Size := by
  rw [utf8Size_append, utf8Size_cons, utf8Size_nil, Nat.add_zero]

/-- Behind a text there are bytes of the next character. -/
theorem getElem_utf8 {behind ahead : Text} {c : Char}
    (h : utf8Size behind < (utf8 (behind ++ c :: ahead)).length) :
    (utf8 (behind ++ c :: ahead))[utf8Size behind] ∈ String.utf8EncodeChar c := by
  have hpos : 0 < (String.utf8EncodeChar c).length := Utf8.length_encode c ▸ Char.utf8Size_pos c
  simp only [utf8_append, utf8_cons]
  rw [List.getElem_append_right (by simp)]
  simp only [length_utf8, Nat.sub_self]
  rw [List.getElem_append_left hpos]
  exact List.getElem_mem hpos

/-- Where a character starts there is a byte. -/
theorem utf8Size_lt_length_utf8 (behind ahead : Text) (c : Char) :
    utf8Size behind < (utf8 (behind ++ c :: ahead)).length := by
  have hpos := Char.utf8Size_pos c
  rw [length_utf8, utf8Size_append, utf8Size_cons]
  omega

/-- There is a byte of ASCII behind a text exactly if there is its character. -/
theorem getElem?_utf8_iff {d : Char} (hd : d.toNat < 0x80) (behind ahead : Text) :
    (utf8 (behind ++ ahead))[utf8Size behind]? = some (Utf8.byte d) ↔ ahead.head? = some d := by
  cases ahead with
  | nil => simp
  | cons c ahead =>
      have hlt := utf8Size_lt_length_utf8 behind ahead c
      rw [List.getElem?_eq_getElem hlt, Option.some.injEq, Utf8.eq_byte_iff hd (getElem_utf8 hlt),
        List.head?_cons, Option.some.injEq]

/-! ### Walks over bytes -/

/-- The end of the bytes in a class, from byte `i` on. -/
def skipBytes (q : UInt8 → Bool) (bytes : Bytes) (i : Nat) : Nat :=
  if h : i < bytes.length then
    if q bytes[i] then skipBytes q bytes (i + 1) else i
  else i
termination_by bytes.length - i

/-- A walk does not go back. -/
theorem le_skipBytes (q : UInt8 → Bool) (bytes : Bytes) (i : Nat) : i ≤ skipBytes q bytes i := by
  fun_induction skipBytes q bytes i with
  | case1 i h hq ih => omega
  | case2 => exact Nat.le_refl _
  | case3 => exact Nat.le_refl _

/-- A walk that starts at a byte of the class goes on behind it. -/
theorem lt_skipBytes {q : UInt8 → Bool} {bytes : Bytes} {i : Nat} (h : i < bytes.length)
    (hq : q bytes[i] = true) : i < skipBytes q bytes i := by
  rw [skipBytes, dif_pos h, if_pos hq]
  exact le_skipBytes q bytes (i + 1)

/-- A walk goes over the longest head of what is ahead that is in the class. -/
theorem skipBytes_append (q : UInt8 → Bool) (behind ahead : Bytes) :
    skipBytes q (behind ++ ahead) behind.length = behind.length + (ahead.takeWhile q).length := by
  induction ahead generalizing behind with
  | nil =>
      rw [skipBytes, dif_neg (by simp)]
      rfl
  | cons b ahead ih =>
      rw [skipBytes, dif_pos (by simp), List.getElem_append_right (Nat.le_refl _)]
      simp only [Nat.sub_self, List.getElem_cons_zero]
      cases hb : q b with
      | false =>
          rw [List.takeWhile_cons_of_neg (by simp [hb])]
          rfl
      | true =>
          have hnext := ih (behind ++ [b])
          rw [List.append_assoc, List.singleton_append, List.length_append, List.length_singleton]
            at hnext
          rw [if_pos rfl, hnext, List.takeWhile_cons_of_pos hb, List.length_cons]
          omega

/-- The bytes at the head that are in a class are those of the characters at the head that are in
the class it follows. -/
theorem takeWhile_utf8 {q : UInt8 → Bool} {p : Char → Bool} (h : Utf8.Follows q p) (t : Text) :
    (utf8 t).takeWhile q = utf8 (t.takeWhile p) := by
  induction t with
  | nil => rfl
  | cons c t ih =>
      rw [utf8_cons]
      cases hc : p c with
      | true =>
          rw [List.takeWhile_cons_of_pos hc, utf8_cons, ← ih]
          exact List.takeWhile_append_of_pos fun b hb => (h c b hb).trans hc
      | false =>
          rw [List.takeWhile_cons_of_neg (by simp [hc]), utf8_nil]
          cases hencode : String.utf8EncodeChar c with
          | nil =>
              have hpos := Char.utf8Size_pos c
              rw [← Utf8.length_encode, hencode] at hpos
              exact absurd hpos (Nat.lt_irrefl 0)
          | cons b bs =>
              have hb : q b = false := (h c b (hencode ▸ List.mem_cons_self)).trans hc
              rw [List.cons_append, List.takeWhile_cons_of_neg (by simp [hb])]

/-- **Where a walk over bytes ends**: behind the characters of the class that it follows. -/
theorem skipBytes_utf8 {q : UInt8 → Bool} {p : Char → Bool} (h : Utf8.Follows q p)
    (behind ahead : Text) : skipBytes q (utf8 (behind ++ ahead)) (utf8Size behind) =
      utf8Size (behind ++ ahead.takeWhile p) := by
  have hwalk := skipBytes_append q (utf8 behind) (utf8 ahead)
  rwa [← utf8_append, length_utf8, takeWhile_utf8 h, length_utf8, ← utf8Size_append] at hwalk

/-! ### Cuts -/

/-- Is the position between two characters, or at an end of the text? -/
def IsBoundary (t : Text) (n : Nat) : Prop :=
  ∃ before ahead, t = before ++ ahead ∧ utf8Size before = n

/-- There is a boundary between two texts, one behind the other. -/
theorem isBoundary_append (before ahead : Text) :
    IsBoundary (before ++ ahead) (utf8Size before) := ⟨before, ahead, rfl, rfl⟩

/-- A position is a boundary where the text can be cut. -/
theorem isSome_cut?_iff {t : Text} {n : Nat} : (cut? n t).isSome = true ↔ IsBoundary t n := by
  constructor
  · intro h
    obtain ⟨⟨before, ahead⟩, hcut⟩ := Option.isSome_iff_exists.mp h
    exact ⟨before, ahead, eq_append_of_cut? hcut, utf8Size_of_cut? hcut⟩
  · rintro ⟨before, ahead, rfl, rfl⟩
    rw [cut?_utf8Size]
    rfl

/-- Of two boundaries the first stands in what is before the second. -/
theorem exists_of_boundaries {before ahead before' ahead' : Text}
    (h : before ++ ahead = before' ++ ahead') (hle : utf8Size before ≤ utf8Size before') :
    ∃ part, before' = before ++ part ∧ ahead = part ++ ahead' := by
  rcases List.append_eq_append_iff.mp h with ⟨part, hbefore, hahead⟩ | ⟨part, hbefore, hahead⟩
  · exact ⟨part, hbefore, hahead⟩
  · have hempty : part = [] := by
      by_contra hne
      have hpos := utf8Size_pos hne
      rw [hbefore, utf8Size_append] at hle
      omega
    subst hempty
    exact ⟨[], by simpa using hbefore.symm, by simpa using hahead.symm⟩

/-- **A text is cut** between two of its boundaries in their order, and nowhere else. -/
theorem isSome_slice?_iff {t : Text} {start stop : Nat} :
    (slice? t start stop).isSome = true ↔
      start ≤ stop ∧ IsBoundary t start ∧ IsBoundary t stop := by
  constructor
  · intro h
    obtain ⟨part, hpart⟩ := Option.isSome_iff_exists.mp h
    rw [slice?] at hpart
    split at hpart
    · cases hpart
    next hle =>
    obtain ⟨⟨before, rest⟩, hcut, hpart⟩ := Option.bind_eq_some_iff.mp hpart
    obtain ⟨⟨part, ahead⟩, hcut', -⟩ := Option.bind_eq_some_iff.mp hpart
    refine ⟨by omega, isSome_cut?_iff.mp (hcut ▸ rfl), before ++ part, ahead, ?_, ?_⟩
    · rw [eq_append_of_cut? hcut, eq_append_of_cut? hcut', List.append_assoc]
    · rw [utf8Size_append, utf8Size_of_cut? hcut, utf8Size_of_cut? hcut']
      omega
  · rintro ⟨hle, ⟨before, ahead, rfl, rfl⟩, before', ahead', hsplit, rfl⟩
    obtain ⟨part, rfl, rfl⟩ := exists_of_boundaries hsplit hle
    rw [utf8Size_append, slice?_append]
    rfl

/-- The start of a text is a boundary. -/
theorem isBoundary_zero (t : Text) : IsBoundary t 0 := isBoundary_append [] t

/-- The end of a text is a boundary. -/
theorem isBoundary_utf8Size (t : Text) : IsBoundary t (utf8Size t) := by
  have hend := isBoundary_append t []
  rwa [List.append_nil] at hend

/-- No boundary is behind the end of its text. -/
theorem IsBoundary.le_utf8Size {t : Text} {n : Nat} (h : IsBoundary t n) : n ≤ utf8Size t := by
  obtain ⟨before, ahead, rfl, rfl⟩ := h
  rw [utf8Size_append]
  exact Nat.le_add_right _ _

/-- A cut between two boundaries is made. -/
theorem slice?_eq_getD {t : Text} {start stop : Nat} (hle : start ≤ stop)
    (hstart : IsBoundary t start) (hstop : IsBoundary t stop) :
    slice? t start stop = some ((slice? t start stop).getD []) := by
  obtain ⟨part, hpart⟩ := Option.isSome_iff_exists.mp (isSome_slice?_iff.mpr ⟨hle, hstart, hstop⟩)
  rw [hpart, Option.getD_some]

/-- What stands behind a position is cut out. -/
theorem slice?_behind (before ahead : Text) :
    slice? (before ++ ahead) (utf8Size before) (utf8Size (before ++ ahead)) = some ahead := by
  have hslice := slice?_append before ahead []
  rwa [List.append_nil, ← utf8Size_append] at hslice

/-- What stands between two positions is cut out. -/
theorem slice?_between (before part ahead : Text) :
    slice? (before ++ (part ++ ahead)) (utf8Size before) (utf8Size (before ++ part)) = some part := by
  rw [utf8Size_append]
  exact slice?_append before part ahead

/-- The position of the first such character in a text. -/
def positionOf? (c : Char) (t : Text) : Option Nat :=
  if t.contains c then some (utf8Size (t.takeWhile (· != c))) else none

/-! ### Looking back -/

/-- The difference of two positions, if it is one. -/
def difference? (m n : Nat) : Option Nat := if n ≤ m then some (m - n) else none

/-- The last boundary up to a position. There is none below the start of the text. -/
def boundaryUpTo? (t : Text) : (n : Nat) → Option Nat
  | 0 => if (cut? 0 t).isSome then some 0 else none
  | n + 1 => if (cut? (n + 1) t).isSome then some (n + 1) else boundaryUpTo? t n

/-- The text before a position, as far back as `n` bytes and to the start of a character. -/
def preceding? (t : Text) (position n : Nat) : Option Text := do
  let start ← boundaryUpTo? t (position - n)
  t.slice? start position

/-- A boundary is the last one up to itself. -/
theorem boundaryUpTo?_of_isBoundary {t : Text} {n : Nat} (h : IsBoundary t n) :
    boundaryUpTo? t n = some n := by
  have hcut := isSome_cut?_iff.mpr h
  cases n with
  | zero => exact if_pos hcut
  | succ n => exact if_pos hcut

/-- No boundary is inside a character. -/
theorem not_isBoundary_inside {before ahead : Text} {c : Char} {m : Nat} (hpos : 0 < m)
    (hm : m < c.utf8Size) : ¬IsBoundary (before ++ c :: ahead) (utf8Size before + m) := by
  rintro ⟨before', ahead', hsplit, hsize⟩
  obtain ⟨part, rfl, hahead⟩ := exists_of_boundaries hsplit (by omega)
  rw [utf8Size_append] at hsize
  cases part with
  | nil =>
      rw [utf8Size_nil] at hsize
      omega
  | cons d part =>
      obtain ⟨rfl, -⟩ := List.cons.inj hahead
      rw [utf8Size_cons] at hsize
      omega

/-- From inside a character, the last boundary is before it. -/
theorem boundaryUpTo?_inside (before ahead : Text) {c : Char} {m : Nat} (hm : m < c.utf8Size) :
    boundaryUpTo? (before ++ c :: ahead) (utf8Size before + m) = some (utf8Size before) := by
  induction m with
  | zero => exact boundaryUpTo?_of_isBoundary (isBoundary_append before (c :: ahead))
  | succ m ih =>
      rw [← Nat.add_assoc, boundaryUpTo?, if_neg]
      · exact ih (Nat.lt_of_succ_lt hm)
      · rw [isSome_cut?_iff]
        exact not_isBoundary_inside (Nat.succ_pos m) hm

/-- The last zero bytes are none. -/
theorem lastBytes_zero (before : Text) : lastBytes 0 before = [] := by
  cases before with
  | nil => rfl
  | cons c before => exact if_pos rfl

/-- The last boundary that leaves some bytes before a position leaves the shortest text that holds
them. -/
theorem boundaryUpTo?_sub (behind ahead : Text) (n : Nat) :
    ∃ rest, behind.reverse = rest ++ lastBytes n behind ∧
      boundaryUpTo? (behind.reverse ++ ahead) (utf8Size behind - n) = some (utf8Size rest) := by
  induction behind generalizing n ahead with
  | nil =>
      refine ⟨[], rfl, ?_⟩
      rw [utf8Size_nil, Nat.zero_sub]
      exact boundaryUpTo?_of_isBoundary (isBoundary_append [] _)
  | cons c before ih =>
      rw [List.reverse_cons, List.append_assoc, List.singleton_append, utf8Size_cons]
      by_cases hzero : n = 0
      · subst hzero
        refine ⟨before.reverse ++ [c], by rw [lastBytes_zero, List.append_nil], ?_⟩
        have hsplit : before.reverse ++ c :: ahead = (before.reverse ++ [c]) ++ ahead := by simp
        have hsize : c.utf8Size + utf8Size before - 0 = utf8Size (before.reverse ++ [c]) := by
          simp [Nat.add_comm]
        rw [hsplit, hsize]
        exact boundaryUpTo?_of_isBoundary (isBoundary_append _ _)
      · rw [lastBytes, if_neg hzero]
        by_cases hle : c.utf8Size ≤ n
        · obtain ⟨rest, hrest, hboundary⟩ := ih (c :: ahead) (n - c.utf8Size)
          refine ⟨rest, by rw [hrest, List.append_assoc], ?_⟩
          have hsize : c.utf8Size + utf8Size before - n = utf8Size before - (n - c.utf8Size) := by
            omega
          rw [hsize, hboundary]
        · have hnone : n - c.utf8Size = 0 := by omega
          have hsize : c.utf8Size + utf8Size before - n =
              utf8Size before.reverse + (c.utf8Size - n) := by
            rw [utf8Size_reverse]
            omega
          refine ⟨before.reverse, by rw [hnone, lastBytes_zero, List.nil_append], ?_⟩
          rw [hsize]
          exact boundaryUpTo?_inside _ _ (by omega)

/-- **The text before a boundary** is its last bytes. -/
theorem preceding?_utf8Size (behind ahead : Text) (n : Nat) :
    preceding? (behind.reverse ++ ahead) (utf8Size behind) n = some (lastBytes n behind) := by
  obtain ⟨rest, hrest, hboundary⟩ := boundaryUpTo?_sub behind ahead n
  have hsize : utf8Size behind = utf8Size rest + utf8Size (lastBytes n behind) := by
    rw [← utf8Size_append, ← hrest, utf8Size_reverse]
  rw [preceding?, hboundary, Option.bind_eq_bind, Option.bind_some, hsize, hrest, List.append_assoc,
    slice?_append]

end Text

/-! ### Positions of fragments -/

section

variable {α : Type} {read : Reader α} {t : Text} {h : Hit α}

/-- A fragment begins between two characters. -/
theorem Hit.isBoundary_start (hread : read.Consumes) (hmem : h ∈ t.hits read) :
    t.IsBoundary h.start := by
  obtain ⟨-, -, rfl⟩ := Text.read_of_mem_hits hread hmem
  rw [Hit.start, ← Text.utf8Size_reverse]
  exact Text.isBoundary_append _ _

/-- A fragment ends between two characters. -/
theorem Hit.isBoundary_stop (hread : read.Consumes) (hmem : h ∈ t.hits read) :
    t.IsBoundary h.stop := by
  obtain ⟨-, -, rfl⟩ := Text.read_of_mem_hits hread hmem
  rw [Hit.stop, Hit.start, ← Text.utf8Size_reverse, ← Text.utf8Size_append, ← List.append_assoc]
  exact Text.isBoundary_append _ _

end

/-- A tag begins between two characters. -/
theorem Tag.isBoundary_start {t : Text} {tag : Tag} (hmem : tag ∈ ofText t) :
    t.IsBoundary tag.start := by
  obtain ⟨h, hh, rfl⟩ := List.mem_map.mp hmem
  exact Hit.isBoundary_start reader_consumes hh

/-- A tag ends between two characters. -/
theorem Tag.isBoundary_stop {t : Text} {tag : Tag} (hmem : tag ∈ ofText t) :
    t.IsBoundary tag.stop := by
  obtain ⟨h, hh, rfl⟩ := List.mem_map.mp hmem
  exact Hit.isBoundary_stop reader_consumes hh

end PageLint
