import PageLint.Proofs.AttributePieces
import PageLint.Proofs.BytePositions

/-!
# Attributes by bytes

The attributes of a tag as a walk over the bytes of its text, with the positions at which names and
values are cut out. A cut that is out of range or inside a character gives nothing
(`Attributes.read?`).

Every walk comes to an end, because each of its steps is to a later byte. It stops at bytes of ASCII
only, which are characters of their own; what it passes over in between can be parts of characters. So
every cut is between characters, and what is cut out are the names and values that
`Attributes.read` reads.

## Main results

* `Attributes.skipBraces_utf8`, `Attributes.valueEnd?_utf8`: where expressions and values end.
* `Attributes.read?_eq`: **attributes are always read**, whatever their text.
* `Attributes.bareValue?_eq`: so is a value without its wrapping.
-/

namespace PageLint.Attributes

open Utf8

/-! ### Expressions in braces -/

/-- What a character, or its byte, does to an expression in braces that is `depth` braces deep, and
inside a quoted text if there is a quote: the depth and the quote behind it, or nothing if the
expression ends with it. Characters are written as `of` says. -/
def braceStep {α : Type} [DecidableEq α] (of : Char → α) (depth : Nat) (quote : Option α) (a : α) :
    Option (Nat × Option α) :=
  match quote with
  | some q => some (depth, if a = q then none else some q)
  | none =>
    if a = of '\'' ∨ a = of '"' ∨ a = of '`' then some (depth, some a)
    else if a = of '{' then some (depth + 1, none)
    else if a = of '}' then if depth - 1 = 0 then none else some (depth - 1, none)
    else some (depth, none)

/-- The end of an expression in braces: just behind the byte that ends it, or the end of the bytes. -/
def skipBraces (bytes : Bytes) (depth : Nat) (quote : Option UInt8) (i : Nat) : Nat :=
  if h : i < bytes.length then
    match braceStep byte depth quote bytes[i] with
    | some (depth, quote) => skipBraces bytes depth quote (i + 1)
    | none => i + 1
  else bytes.length
termination_by bytes.length - i

/-- Within the text, a walk over an expression goes on by one byte at least. -/
theorem lt_skipBraces {bytes : Bytes} {i : Nat} (h : i < bytes.length) (depth : Nat)
    (quote : Option UInt8) : i < skipBraces bytes depth quote i := by
  fun_induction skipBraces bytes depth quote i with
  | case1 depth quote i _ depth' quote' _ ih =>
      by_cases hnext : i + 1 < bytes.length
      · exact Nat.lt_of_succ_lt (ih hnext)
      · rw [skipBraces, dif_neg hnext]
        exact h
  | case2 => exact Nat.lt_succ_self _
  | case3 depth quote i hend => exact absurd h hend

/-- Characters of an expression one by one. -/
theorem readBraces_cons_eq (depth : Nat) (quote : Option Char) (c : Char) (t : Text) :
    readBraces depth quote (c :: t) =
      match braceStep id depth quote c with
      | some (depth, quote) => (c :: (readBraces depth quote t).1, (readBraces depth quote t).2)
      | none => ([c], t) := by
  have hend : depth ≤ 1 ↔ depth - 1 = 0 := by omega
  cases quote with
  | some q =>
      rw [readBraces]
      by_cases hq : c = q <;> simp [braceStep, hq]
  | none =>
      simp only [readBraces, braceStep, id_eq, hend]
      split
      · rfl
      split
      · rfl
      split
      · split <;> rfl
      · rfl

/-- A byte of a character does what the character does. -/
theorem braceStep_byte {quote : Option Char} (hquote : ∀ q ∈ quote, q.toNat < 0x80) (depth : Nat)
    {c : Char} {b : UInt8} (hb : b ∈ String.utf8EncodeChar c) :
    braceStep byte depth (quote.map byte) b =
      (braceStep id depth quote c).map fun (depth, quote) => (depth, quote.map byte) := by
  cases quote with
  | some q =>
      by_cases hq : c = q <;>
        simp [braceStep, eq_byte_iff (hquote q rfl) hb, hq]
  | none =>
      simp only [braceStep, Option.map_none, id_eq, eq_byte_iff (by decide : '\''.toNat < 0x80) hb,
        eq_byte_iff (by decide : '"'.toNat < 0x80) hb, eq_byte_iff (by decide : '`'.toNat < 0x80) hb,
        eq_byte_iff (by decide : '{'.toNat < 0x80) hb, eq_byte_iff (by decide : '}'.toNat < 0x80) hb]
      by_cases hopen : c = '\'' ∨ c = '"' ∨ c = '`'
      · have hc : c.toNat < 0x80 := by
          rcases hopen with rfl | rfl | rfl <;> decide
        rw [if_pos hopen, if_pos hopen, Option.map_some, Option.map_some, (eq_byte_iff hc hb).mpr rfl]
      · rw [if_neg hopen, if_neg hopen]
        by_cases hdeeper : c = '{'
        · rw [if_pos hdeeper, if_pos hdeeper]
          rfl
        · rw [if_neg hdeeper, if_neg hdeeper]
          by_cases hclose : c = '}'
          · rw [if_pos hclose, if_pos hclose]
            split <;> rfl
          · rw [if_neg hclose, if_neg hclose]
            rfl

/-- A character beyond ASCII does nothing. -/
theorem braceStep_of_not_ascii {quote : Option Char} (hquote : ∀ q ∈ quote, q.toNat < 0x80)
    (depth : Nat) {c : Char} (hc : 0x80 ≤ c.toNat) :
    braceStep id depth quote c = some (depth, quote) := by
  have hne {d : Char} (hd : d.toNat < 0x80) : c ≠ d := by
    rintro rfl
    omega
  cases quote with
  | some q => simp [braceStep, hne (hquote q rfl)]
  | none => simp [braceStep, hne]

/-- The quote that a character leaves is of ASCII. -/
theorem ascii_of_braceStep {quote quote' : Option Char} {depth depth' : Nat} {c : Char}
    (hquote : ∀ q ∈ quote, q.toNat < 0x80)
    (h : braceStep id depth quote c = some (depth', quote')) : ∀ q ∈ quote', q.toNat < 0x80 := by
  by_cases hc : c.toNat < 0x80
  · intro q hq
    have hsource : quote = some q ∨ c = q := by
      cases quote with
      | some q' =>
          simp only [braceStep] at h
          split at h <;> simp_all
      | none =>
          simp only [braceStep, id_eq] at h
          grind
    rcases hsource with hsource | rfl
    · exact hquote q hsource
    · exact hc
  · rw [braceStep_of_not_ascii hquote depth (Nat.le_of_not_lt hc)] at h
    obtain ⟨-, rfl⟩ := Prod.mk.inj (Option.some.inj h)
    exact hquote

/-- Bytes that do nothing are passed over. -/
theorem skipBraces_pass (behind ahead : Bytes) {passed : Bytes} {depth : Nat} {quote : Option UInt8}
    (h : ∀ b ∈ passed, braceStep byte depth quote b = some (depth, quote)) :
    skipBraces (behind ++ (passed ++ ahead)) depth quote behind.length =
      skipBraces (behind ++ (passed ++ ahead)) depth quote (behind.length + passed.length) := by
  induction passed generalizing behind with
  | nil => rfl
  | cons b passed ih =>
      have hnext := ih (behind ++ [b]) fun b' hb' => h b' (List.mem_cons_of_mem b hb')
      rw [List.append_assoc, List.singleton_append, List.length_append, List.length_singleton,
        Nat.add_assoc, Nat.add_comm 1] at hnext
      rw [skipBraces, dif_pos (by simp), List.getElem_append_right (Nat.le_refl _)]
      simp only [Nat.sub_self, List.cons_append, List.getElem_cons_zero,
        h b List.mem_cons_self, List.length_cons]
      exact hnext

/-- The bytes of a character do what the character does. -/
theorem skipBraces_char (behind ahead : Text) {c : Char} {quote quote' : Option Char}
    {depth depth' : Nat} (hquote : ∀ q ∈ quote, q.toNat < 0x80)
    (h : braceStep id depth quote c = some (depth', quote')) :
    skipBraces (behind ++ c :: ahead).utf8 depth (quote.map byte) (Text.utf8Size behind) =
      skipBraces (behind ++ c :: ahead).utf8 depth' (quote'.map byte)
        (Text.utf8Size (behind ++ [c])) := by
  by_cases hc : c.toNat < 0x80
  · have hlt := Text.utf8Size_lt_length_utf8 behind ahead c
    rw [skipBraces, dif_pos hlt, braceStep_byte hquote depth (Text.getElem_utf8 hlt), h,
      Text.utf8Size_concat, utf8Size_of_ascii hc]
    rfl
  · have hsame := braceStep_of_not_ascii hquote depth (Nat.le_of_not_lt hc)
    obtain ⟨rfl, rfl⟩ := Prod.mk.inj (Option.some.inj (hsame.symm.trans h))
    have hpass : ∀ b ∈ String.utf8EncodeChar c,
        braceStep byte depth (quote.map byte) b = some (depth, quote.map byte) := fun b hb => by
      rw [braceStep_byte hquote depth hb, hsame]
      rfl
    have hwalk := skipBraces_pass behind.utf8 ahead.utf8 hpass
    rwa [Text.length_utf8, length_encode, ← Text.utf8_cons, ← Text.utf8_append,
      ← Text.utf8Size_concat] at hwalk

/-- **Where an expression in braces ends.** -/
theorem skipBraces_utf8 (behind ahead : Text) (depth : Nat) {quote : Option Char}
    (hquote : ∀ q ∈ quote, q.toNat < 0x80) :
    skipBraces (behind ++ ahead).utf8 depth (quote.map byte) (Text.utf8Size behind) =
      Text.utf8Size (behind ++ (readBraces depth quote ahead).1) := by
  induction ahead generalizing behind depth quote with
  | nil =>
      rw [skipBraces, dif_neg (by simp), List.append_nil, Text.length_utf8, readBraces,
        List.append_nil]
  | cons c ahead ih =>
      rw [readBraces_cons_eq]
      cases hstep : braceStep id depth quote c with
      | none =>
          have hlt := Text.utf8Size_lt_length_utf8 behind ahead c
          have hc : c.toNat < 0x80 := by
            refine Nat.lt_of_not_le fun hle => ?_
            rw [braceStep_of_not_ascii hquote depth hle] at hstep
            cases hstep
          rw [skipBraces, dif_pos hlt, braceStep_byte hquote depth (Text.getElem_utf8 hlt), hstep,
            Text.utf8Size_concat, utf8Size_of_ascii hc]
          rfl
      | some next =>
          rw [skipBraces_char behind ahead hquote hstep]
          have hnext := ih (behind ++ [c]) next.1 (ascii_of_braceStep hquote hstep)
          rw [List.append_assoc, List.singleton_append] at hnext
          rw [hnext, List.append_assoc, List.singleton_append]

/-! ### Values -/

/-- Is this the byte of a character that names are made of? -/
def isNameByte : UInt8 → Bool := isAscii isNameChar

/-- Is this the byte of a blank? -/
def isSpaceByte : UInt8 → Bool := isAscii isAsciiSpace

/-- Letters and digits of ASCII are characters of ASCII. -/
theorem lt_of_isAlphanum {c : Char} (h : c.isAlphanum = true) : c.toNat < 0x80 := by
  have hclasses : (c.isUpper || c.isLower || c.isDigit) = true := h
  simp only [Bool.or_eq_true] at hclasses
  have hle : ∀ last : Char, c.val ≤ last.val → last.toNat < 0x80 → c.toNat < 0x80 :=
    fun last hc hlast => Nat.lt_of_le_of_lt (UInt32.le_iff_toNat_le.mp hc) hlast
  rcases hclasses with (hupper | hlower) | hdigit
  · have hbounds : 'A'.val ≤ c.val ∧ c.val ≤ 'Z'.val := of_decide_eq_true hupper
    exact hle 'Z' hbounds.2 (by decide)
  · have hbounds : (decide ('a'.val ≤ c.val) && decide (c.val ≤ 'z'.val)) = true := hlower
    exact hle 'z' (of_decide_eq_true (Bool.and_eq_true_iff.mp hbounds).2) (by decide)
  · have hbounds : (decide ('0'.val ≤ c.val) && decide (c.val ≤ '9'.val)) = true := hdigit
    exact hle '9' (of_decide_eq_true (Bool.and_eq_true_iff.mp hbounds).2) (by decide)

/-- The bytes of names follow the characters of names. -/
theorem follows_isNameByte : Follows isNameByte isNameChar := follows_isAscii fun c hc => by
  simp only [isNameChar, isAsciiAlphanumeric, Bool.or_eq_true, beq_iff_eq] at hc
  rcases hc with (((hc | rfl) | rfl) | rfl) | rfl
  · exact lt_of_isAlphanum hc
  all_goals decide

/-- The bytes that are blank follow the characters that are. -/
theorem follows_isSpaceByte : Follows isSpaceByte isAsciiSpace := follows_isAscii fun c hc => by
  simp only [isAsciiSpace, Bool.or_eq_true, decide_eq_true_eq] at hc
  rcases hc with (((rfl | rfl) | rfl) | rfl) | rfl <;> decide

/-- The end of the value at byte `i`. -/
def valueEnd? (raw : Text) (i : Nat) : Option Nat :=
  if h : i < raw.utf8.length then
    let b := raw.utf8[i]
    if b = byte '\'' ∨ b = byte '"' then do
      let rest ← raw.slice? (i + 1) (Text.utf8Size raw)
      return match Text.positionOf? (Char.ofNat b.toNat) rest with
        | some place => i + 1 + place + 1
        | none => Text.utf8Size raw
    else if b = byte '{' then some (skipBraces raw.utf8 0 none i)
    else some (Text.skipBytes (!isSpaceByte ·) raw.utf8 i)
  else some i

/-- A value ends where it starts or behind that place. -/
theorem le_valueEnd? {raw : Text} {i stop : Nat} (h : valueEnd? raw i = some stop) : i ≤ stop := by
  rw [valueEnd?] at h
  split at h
  next hlt =>
    simp only at h
    split at h
    · obtain ⟨rest, hrest, hstop⟩ := Option.bind_eq_some_iff.mp h
      obtain rfl := Option.some.inj hstop
      rw [Text.length_utf8] at hlt
      split <;> omega
    · split at h
      · obtain rfl := Option.some.inj h
        exact Nat.le_of_lt (lt_skipBraces hlt 0 none)
      · obtain rfl := Option.some.inj h
        exact Text.le_skipBytes _ _ i
  next => exact (Option.some.inj h).le

/-- A quoted value ends behind the next quote, or with the text. -/
theorem readQuoted_fst (quote : Char) (t : Text) : (readQuoted quote t).1 =
    if quote ∈ t then t.takeWhile (· != quote) ++ [quote] else t := by
  induction t with
  | nil => rfl
  | cons c t ih =>
      rw [readQuoted]
      by_cases hc : c = quote
      · simp [hc]
      · simp only [if_neg hc, ih, List.mem_cons, Ne.symm hc, false_or]
        split <;> simp [hc]

/-- **Where a value ends.** -/
theorem valueEnd?_utf8 (behind ahead : Text) :
    valueEnd? (behind ++ ahead) (Text.utf8Size behind) =
      some (Text.utf8Size (behind ++ (readValue ahead).1)) := by
  cases ahead with
  | nil =>
      rw [valueEnd?, dif_neg (by simp)]
      simp [readValue]
  | cons c t =>
      have hlt := Text.utf8Size_lt_length_utf8 behind t c
      have hb := Text.getElem_utf8 hlt
      rw [valueEnd?, dif_pos hlt, readValue]
      simp only [eq_byte_iff (by decide : '\''.toNat < 0x80) hb,
        eq_byte_iff (by decide : '"'.toNat < 0x80) hb, eq_byte_iff (by decide : '{'.toNat < 0x80) hb]
      split
      next hquote =>
        have hc : c.toNat < 0x80 := by
          rcases hquote with rfl | rfl <;> decide
        have hsize : Text.utf8Size behind + 1 = Text.utf8Size (behind ++ [c]) := by
          rw [Text.utf8Size_concat, utf8Size_of_ascii hc]
        have hrest : (behind ++ c :: t).slice? (Text.utf8Size behind + 1)
            (Text.utf8Size (behind ++ c :: t)) = some t := by
          have hslice := Text.slice?_behind (behind ++ [c]) t
          rwa [List.append_assoc, List.singleton_append, ← hsize] at hslice
        rw [hrest, (eq_byte_iff hc hb).mpr rfl, ofNat_toNat_byte hc, Option.bind_eq_bind,
          Option.bind_some, Text.positionOf?, readQuoted_fst]
        refine congrArg some ?_
        by_cases hclosed : c ∈ t
        · rw [if_pos (List.contains_iff_mem.mpr hclosed), if_pos hclosed]
          simp only [Text.utf8Size_append, Text.utf8Size_cons, Text.utf8Size_nil,
            utf8Size_of_ascii hc]
          omega
        · rw [if_neg (by simpa using hclosed), if_neg hclosed]
      next =>
        split
        next =>
          exact congrArg some (@skipBraces_utf8 behind (c :: t) 0 none (by simp))
        next =>
          exact congrArg some (Text.skipBytes_utf8 follows_isSpaceByte.not behind (c :: t))

/-! ### Pairs -/

/-- The pairs from byte `i` on. -/
def pairsFrom? (raw : Text) (i : Nat) : Option (List (Text × Text)) :=
  if h : i < raw.utf8.length then
    if raw.utf8[i] = byte '{' then pairsFrom? raw (skipBraces raw.utf8 0 none i)
    else if hname : isNameByte raw.utf8[i] = true then
      let j := Text.skipBytes isNameByte raw.utf8 i
      match raw.slice? i j with
      | none => none
      | some name =>
        let k := Text.skipBytes isSpaceByte raw.utf8 j
        if raw.utf8[k]? = some (byte '=') then
          let start := Text.skipBytes isSpaceByte raw.utf8 (k + 1)
          match hstop : valueEnd? raw start with
          | none => none
          | some stop => do
            let value ← raw.slice? start stop
            return (name, value) :: (← pairsFrom? raw stop)
        else do return (name, []) :: (← pairsFrom? raw j)
    else pairsFrom? raw (i + 1)
  else some []
termination_by raw.utf8.length - i
decreasing_by
  · have hlt := lt_skipBraces h 0 none
    omega
  · have hj : i < j := Text.lt_skipBytes h hname
    have hk : j ≤ k := Text.le_skipBytes isSpaceByte raw.utf8 j
    have hstart : k + 1 ≤ start := Text.le_skipBytes isSpaceByte raw.utf8 (k + 1)
    have hle : start ≤ stop := le_valueEnd? hstop
    omega
  · have hj : i < j := Text.lt_skipBytes h hname
    omega
  · omega

/-- The attributes of the text, read by bytes. -/
def read? (raw : Text) : Option Attributes := (pairsFrom? raw 0).map Attributes.mk

/-- Bytes beyond ASCII are passed over one by one. -/
theorem pairsFrom?_pass {raw : Text} {behind passed ahead : Bytes}
    (hraw : raw.utf8 = behind ++ (passed ++ ahead)) (h : ∀ b ∈ passed, 0x80 ≤ b.toNat) :
    pairsFrom? raw behind.length = pairsFrom? raw (behind.length + passed.length) := by
  induction passed generalizing behind with
  | nil => rfl
  | cons b passed ih =>
      have hnext := @ih (behind ++ [b]) (by simp [hraw])
        fun b' hb' => h b' (List.mem_cons_of_mem b hb')
      rw [List.length_append, List.length_singleton, Nat.add_assoc, Nat.add_comm 1] at hnext
      have hb := h b List.mem_cons_self
      have hlt : behind.length < raw.utf8.length := by simp [hraw]
      have hget : raw.utf8[behind.length] = b := by simp [hraw]
      have hbrace : b ≠ byte '{' := by
        rintro rfl
        exact absurd hb (by decide)
      have hname : ¬isNameByte b = true := by
        simp [isNameByte, isAscii, Nat.not_lt.mpr hb]
      rw [pairsFrom?, dif_pos hlt, hget, if_neg hbrace, dif_neg hname, List.length_cons]
      exact hnext

/-- A character that belongs to no attribute is passed over. -/
theorem pairsFrom?_stray {c : Char} (hbrace : c ≠ '{') (hname : isNameChar c = false)
    (behind t : Text) : pairsFrom? (behind ++ c :: t) (Text.utf8Size behind) =
      pairsFrom? (behind ++ c :: t) (Text.utf8Size (behind ++ [c])) := by
  by_cases hc : c.toNat < 0x80
  · have hlt := Text.utf8Size_lt_length_utf8 behind t c
    have hb := Text.getElem_utf8 hlt
    rw [pairsFrom?, dif_pos hlt, if_neg (mt (eq_byte_iff (by decide) hb).mp hbrace), dif_neg,
      Text.utf8Size_concat, utf8Size_of_ascii hc]
    rw [follows_isNameByte c _ hb, hname]
    exact Bool.false_ne_true
  · have hpass := @pairsFrom?_pass (behind ++ c :: t) behind.utf8 (String.utf8EncodeChar c) t.utf8
      (by rw [Text.utf8_append, Text.utf8_cons]) fun b => le_of_mem_encode (Nat.le_of_not_lt hc)
    rwa [Text.length_utf8, length_encode, ← Text.utf8Size_concat] at hpass

/-- A text up to the end of its name, and the rest. -/
theorem append_name (behind t : Text) (c : Char) :
    (behind ++ c :: t.takeWhile isNameChar) ++ t.dropWhile isNameChar = behind ++ c :: t := by
  rw [List.append_assoc, List.cons_append, List.takeWhile_append_dropWhile]

section

variable {behind t : Text} {c : Char} (hbrace : c ≠ '{') (hname : isNameChar c = true)

include hname in
/-- Where a name ends. -/
theorem skipBytes_name : Text.skipBytes isNameByte (behind ++ c :: t).utf8 (Text.utf8Size behind) =
    Text.utf8Size (behind ++ c :: t.takeWhile isNameChar) := by
  rw [Text.skipBytes_utf8 follows_isNameByte, List.takeWhile_cons_of_pos hname]

/-- A name is cut out. -/
theorem slice?_name : (behind ++ c :: t).slice? (Text.utf8Size behind)
    (Text.utf8Size (behind ++ c :: t.takeWhile isNameChar)) = some (c :: t.takeWhile isNameChar) := by
  have hslice := Text.slice?_between behind (c :: t.takeWhile isNameChar) (t.dropWhile isNameChar)
  rwa [← List.append_assoc, append_name] at hslice

/-- Behind a name and blanks there is an equals sign or not. -/
theorem getElem?_behind_name (behind t : Text) (c : Char) :
    (behind ++ c :: t).utf8[Text.skipBytes isSpaceByte (behind ++ c :: t).utf8
      (Text.utf8Size (behind ++ c :: t.takeWhile isNameChar))]? = some (byte '=') ↔
    ((t.dropWhile isNameChar).dropWhile isAsciiSpace).head? = some '=' := by
  rw [← append_name behind t c, Text.skipBytes_utf8 follows_isSpaceByte]
  have hbehind := Text.getElem?_utf8_iff (by decide : '='.toNat < 0x80)
    ((behind ++ c :: t.takeWhile isNameChar) ++ (t.dropWhile isNameChar).takeWhile isAsciiSpace)
    ((t.dropWhile isNameChar).dropWhile isAsciiSpace)
  rwa [List.append_assoc _ (List.takeWhile isAsciiSpace _), List.takeWhile_append_dropWhile]
    at hbehind

include hbrace hname

/-- A name without a value is cut out. -/
theorem pairsFrom?_flag
    (hflag : ((t.dropWhile isNameChar).dropWhile isAsciiSpace).head? ≠ some '=') :
    pairsFrom? (behind ++ c :: t) (Text.utf8Size behind) =
      (pairsFrom? (behind ++ c :: t) (Text.utf8Size (behind ++ c :: t.takeWhile isNameChar))).map
        ((c :: t.takeWhile isNameChar, []) :: ·) := by
  have hlt := Text.utf8Size_lt_length_utf8 behind t c
  have hb := Text.getElem_utf8 hlt
  rw [pairsFrom?, dif_pos hlt, if_neg (mt (eq_byte_iff (by decide) hb).mp hbrace),
    dif_pos ((follows_isNameByte c _ hb).trans hname)]
  simp only [skipBytes_name hname, slice?_name]
  rw [if_neg (mt (getElem?_behind_name behind t c).mp hflag)]
  exact Option.map_eq_bind.symm

/-- A name and its value are cut out. -/
theorem pairsFrom?_valued {more : Text}
    (hmore : (t.dropWhile isNameChar).dropWhile isAsciiSpace = '=' :: more) :
    let name := c :: t.takeWhile isNameChar
    let value := (readValue (more.dropWhile isAsciiSpace)).1
    pairsFrom? (behind ++ c :: t) (Text.utf8Size behind) =
      (pairsFrom? (behind ++ c :: t) (Text.utf8Size (behind ++
        (Piece.valued name ((t.dropWhile isNameChar).takeWhile isAsciiSpace)
          (more.takeWhile isAsciiSpace) value).text))).map ((name, value) :: ·) := by
  intro name value
  have hlt := Text.utf8Size_lt_length_utf8 behind t c
  have hb := Text.getElem_utf8 hlt
  let equals : Text := behind ++ name ++ (t.dropWhile isNameChar).takeWhile isAsciiSpace
  let front : Text := equals ++ ['='] ++ more.takeWhile isAsciiSpace
  have hequals : equals ++ '=' :: more = behind ++ c :: t := by
    rw [← append_name behind t c, ← hmore, List.append_assoc, List.takeWhile_append_dropWhile]
  have hfront : front ++ more.dropWhile isAsciiSpace = behind ++ c :: t := by
    rw [← hequals, List.append_assoc, List.takeWhile_append_dropWhile, List.append_assoc,
      List.singleton_append]
  have hequalsSize : Text.utf8Size equals + 1 = Text.utf8Size (equals ++ ['=']) := by
    rw [Text.utf8Size_concat, utf8Size_of_ascii (by decide)]
  have hstart : Text.skipBytes isSpaceByte (behind ++ c :: t).utf8
      (Text.skipBytes isSpaceByte (behind ++ c :: t).utf8
        (Text.utf8Size (behind ++ c :: t.takeWhile isNameChar)) + 1) = Text.utf8Size front := by
    have hk : Text.skipBytes isSpaceByte (behind ++ c :: t).utf8
        (Text.utf8Size (behind ++ c :: t.takeWhile isNameChar)) = Text.utf8Size equals := by
      rw [← append_name behind t c, Text.skipBytes_utf8 follows_isSpaceByte]
    rw [hk, hequalsSize, ← hequals, ← List.singleton_append, ← List.append_assoc,
      Text.skipBytes_utf8 follows_isSpaceByte]
  have hstop : valueEnd? (behind ++ c :: t) (Text.utf8Size front) =
      some (Text.utf8Size (front ++ value)) := by
    rw [← hfront, valueEnd?_utf8]
  have hslice : (behind ++ c :: t).slice? (Text.utf8Size front) (Text.utf8Size (front ++ value)) =
      some value := by
    rw [← hfront, ← readValue_text (more.dropWhile isAsciiSpace)]
    exact Text.slice?_between _ _ _
  rw [pairsFrom?, dif_pos hlt, if_neg (mt (eq_byte_iff (by decide) hb).mp hbrace),
    dif_pos ((follows_isNameByte c _ hb).trans hname)]
  simp only [skipBytes_name hname, slice?_name]
  rw [if_pos ((getElem?_behind_name behind t c).mpr (by rw [hmore, List.head?_cons]))]
  split
  next hnone =>
    rw [skipBytes_name hname, hstart, hstop] at hnone
    cases hnone
  next stop hsome =>
    rw [skipBytes_name hname, hstart, hstop] at hsome
    obtain rfl := Option.some.inj hsome
    have hend : front ++ value = behind ++
        (Piece.valued name ((t.dropWhile isNameChar).takeWhile isAsciiSpace)
          (more.takeWhile isAsciiSpace) value).text := by
      simp [front, equals, Piece.text]
    rw [hstart, hslice, hend]
    exact Option.map_eq_bind.symm

end

/-- **The first piece** of a text is read, and then what follows it. -/
theorem pairsFrom?_piece (behind t : Text) (c : Char) :
    pairsFrom? (behind ++ c :: t) (Text.utf8Size behind) =
      (pairsFrom? (behind ++ c :: t) (Text.utf8Size (behind ++ (headPiece c t).1.text))).map
        ((headPiece c t).1.pair?.toList ++ ·) := by
  rw [headPiece]
  split
  next hbrace =>
    subst hbrace
    have hlt := Text.utf8Size_lt_length_utf8 behind t '{'
    have hb := Text.getElem_utf8 hlt
    rw [pairsFrom?, dif_pos hlt, if_pos ((eq_byte_iff (by decide) hb).mpr rfl)]
    have hskip := @skipBraces_utf8 behind ('{' :: t) 0 none (by simp)
    rw [Option.map_none] at hskip
    rw [hskip]
    exact Option.map_id'.symm
  next hbrace =>
    split
    next hname =>
      simp only
      split
      next more hmore => exact pairsFrom?_valued hbrace hname hmore
      next hnot =>
        refine pairsFrom?_flag hbrace hname fun hhead => ?_
        obtain ⟨more, hmore⟩ := List.head?_eq_some_iff.mp hhead
        exact hnot more hmore
    next hname =>
      rw [pairsFrom?_stray hbrace (Bool.eq_false_iff.mpr hname)]
      exact Option.map_id'.symm

/-- What is read from a position on are the pairs of the text behind it. -/
theorem pairsFrom?_utf8 (behind ahead : Text) :
    pairsFrom? (behind ++ ahead) (Text.utf8Size behind) = some (readPairs ahead) := by
  induction hn : ahead.length using Nat.strongRecOn generalizing behind ahead with
  | ind n ih =>
      subst hn
      cases ahead with
      | nil =>
          rw [pairsFrom?, dif_neg (by simp), readPairs]
      | cons c t =>
          have hlength := headPiece_length c t
          have hnext := ih _ hlength (behind ++ (headPiece c t).1.text) (headPiece c t).2 rfl
          rw [List.append_assoc, headPiece_text] at hnext
          rw [pairsFrom?_piece, hnext, readPairs_cons]
          rfl

/-- **Attributes are always read**: no cut is out of range or inside a character. -/
theorem read?_eq (raw : Text) : read? raw = some (read raw) := by
  rw [read?, read]
  exact congrArg (Option.map Attributes.mk) (pairsFrom?_utf8 [] raw)

/-! ### Quotes around a value -/

/-- The text between two quotes, if a value is in such quotes. -/
def cutQuotes? (quote : Char) (v : Text) : Option (Option Text) :=
  if 2 ≤ Text.utf8Size v ∧ v.head? = some quote ∧ v.getLast? = some quote then do
    let stop ← Text.difference? (Text.utf8Size v) 1
    let inner ← v.slice? 1 stop
    return some inner
  else some none

/-- A value without its wrapping, cut out by bytes. -/
def bareValue? (v : Text) : Option Text := do
  let v := v.trim
  let v := ((bareValue.unwrap? '{' '}' v).getD v).trim
  match ← cutQuotes? '\'' v with
  | some inner => return inner
  | none => return (← cutQuotes? '"' v).getD v

/-- Quotes are one byte each, so what is between them is cut out. -/
theorem cutQuotes?_eq {quote : Char} (hquote : quote.toNat < 0x80) (v : Text) :
    cutQuotes? quote v = some (bareValue.unwrap? quote quote v) := by
  cases v with
  | nil => rfl
  | cons c t =>
      rw [cutQuotes?, bareValue.unwrap?]
      by_cases hquoted : c = quote ∧ t.getLast? = some quote
      · obtain ⟨rfl, hlast⟩ := hquoted
        have hsplit : [c] ++ (t.dropLast ++ [c]) = c :: t := by
          rw [List.dropLast_append_getLast? _ hlast, List.singleton_append]
        have hone : Text.utf8Size [c] = 1 := utf8Size_of_ascii hquote
        have hsize : Text.utf8Size (c :: t) = Text.utf8Size ([c] ++ t.dropLast) + 1 := by
          rw [← hsplit, ← List.append_assoc, Text.utf8Size_append, hone]
        have hlong : 2 ≤ Text.utf8Size (c :: t) := by
          rw [hsize, Text.utf8Size_append, hone]
          omega
        have hslice := Text.slice?_between [c] t.dropLast [c]
        rw [hsplit, hone] at hslice
        rw [if_pos ⟨hlong, rfl, by simp [List.getLast?_cons, hlast]⟩, if_pos ⟨rfl, hlast⟩,
          Text.difference?, if_pos (Nat.le_of_succ_le hlong), hsize, Nat.add_sub_cancel,
          Option.bind_eq_bind, Option.bind_some, hslice]
        rfl
      · rw [if_neg, if_neg hquoted]
        rintro ⟨hlong, hhead, hlast⟩
        obtain rfl : c = quote := by simpa using hhead
        cases t with
        | nil =>
            rw [Text.utf8Size_cons, utf8Size_of_ascii hquote] at hlong
            exact absurd hlong (by decide)
        | cons d t => exact hquoted ⟨rfl, by simpa using hlast⟩

/-- **A value without its wrapping is always read**: no cut is out of range or inside a
character. -/
theorem bareValue?_eq (v : Text) : bareValue? v = some (bareValue v) := by
  rw [bareValue?, bareValue, cutQuotes?_eq (by decide), Option.bind_eq_bind, Option.bind_some]
  cases bareValue.unwrap? '\'' '\'' ((bareValue.unwrap? '{' '}' v.trim).getD v.trim).trim with
  | some inner => rfl
  | none =>
      simp only [cutQuotes?_eq (by decide : '"'.toNat < 0x80)]
      rfl

end PageLint.Attributes
