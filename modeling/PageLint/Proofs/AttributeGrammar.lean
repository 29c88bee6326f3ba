import Mathlib.Data.List.Forall2
import PageLint.Markup.Attributes
import PageLint.Proofs.Scanning

/-!
# The grammar of attributes

An attribute is a name, and a value behind an equals sign, or a name alone, which is a flag. What is
read of an attribute depends only on the attribute: the reading goes on behind it.

A value has several spellings (`Attributes.Spells`): in quotes or without, in braces or without, with
blanks between these layers. Taking its wrapping off a value is finding out what it spells, and a text
spells one value only. A value in quotes may hold anything, that kind of quote and blanks at its ends
included; one without quotes must not look as if it had a wrapping that it does not have.

## Main results

* `Attributes.bareValue_eq_iff`: **the value of a text** is the one that the text spells.
* `Attributes.bare?_respelled`: attributes whose values are spelled in other ways read the same.
* `Attributes.readPairs_flag`: a name without an equals sign behind it is a flag.
* `Attributes.readPairs_valued`: an attribute with a value is **read as it is written**, with blanks
  around the equals sign or not.
-/

namespace PageLint.Attributes

/-! ### Values -/

/-- A quote around values. -/
def IsQuote (q : Char) : Prop := q = '\'' ∨ q = '"'

instance : DecidablePred IsQuote := fun _ => inferInstanceAs (Decidable (_ ∨ _))

/-- Quotes are not blank. -/
theorem IsQuote.not_isSpace {q : Char} (h : IsQuote q) : isSpace q = false := by
  rcases h with rfl | rfl <;> decide

/-- Quotes are not blank in ASCII. -/
theorem IsQuote.not_isAsciiSpace {q : Char} (h : IsQuote q) : isAsciiSpace q = false := by
  rcases h with rfl | rfl <;> decide

/-- A quoted value goes up to the next quote. -/
theorem readQuoted_append {q : Char} {v : Text} (h : q ∉ v) (t : Text) :
    readQuoted q (v ++ q :: t) = (v ++ [q], t) := by
  induction v with
  | nil => rw [List.nil_append, readQuoted, if_pos rfl, List.nil_append]
  | cons c v ih =>
      have hc : c ≠ q := (List.ne_of_not_mem_cons h).symm
      rw [List.cons_append, readQuoted, if_neg hc, ih (List.not_mem_of_not_mem_cons h)]
      rfl

/-- A value in quotes is read with its quotes. -/
theorem readValue_quoted {q : Char} (hq : IsQuote q) {v : Text} (h : q ∉ v) (t : Text) :
    readValue (q :: (v ++ q :: t)) = (q :: (v ++ [q]), t) := by
  rw [readValue, if_pos (show q = '\'' ∨ q = '"' from hq), readQuoted_append h]

/-! ### Spellings -/

/-- The text in two quotes. -/
def quoted (q : Char) (v : Text) : Text := q :: (v ++ [q])

/-- The text in braces. -/
def braced (v : Text) : Text := '{' :: (v ++ ['}'])

/-- A value that can do without quotes. -/
structure IsBare (v : Text) : Prop where
  /-- There are no blanks at its ends, which would be trimmed. -/
  isTrimmed : v.IsTrimmed
  /-- It is not a text in quotes itself, which would be taken off. A lone quote may stay. -/
  ne_quoted : ∀ q inner, IsQuote q → v ≠ quoted q inner

/-- The spellings of a value. Blanks may stand around the whole and inside the braces. -/
inductive Spells (v : Text) : Text → Prop where
  /-- The value in quotes of one kind. -/
  | quoted {q : Char} {t : Text} : IsQuote q → Text.IsPadded (quoted q v) t → Spells v t
  /-- The value in quotes, and these in braces. -/
  | bracedQuoted {q : Char} {inside t : Text} : IsQuote q → Text.IsPadded (quoted q v) inside →
      Text.IsPadded (braced inside) t → Spells v t
  /-- The value as it is, when it is not in braces itself. -/
  | bare {t : Text} : IsBare v → (∀ inner, v ≠ braced inner) → Text.IsPadded v t → Spells v t
  /-- The value in braces. -/
  | braced {inside t : Text} : IsBare v → Text.IsPadded v inside →
      Text.IsPadded (braced inside) t → Spells v t

/-- There are no blanks around a value in quotes. -/
theorem IsQuote.isTrimmed_quoted {q : Char} (hq : IsQuote q) (v : Text) : (quoted q v).IsTrimmed :=
  Text.isTrimmed_enclosed hq.not_isSpace hq.not_isSpace v

/-- There are no blanks around a value in braces. -/
theorem isTrimmed_braced (v : Text) : (braced v).IsTrimmed :=
  Text.isTrimmed_enclosed (by decide) (by decide) v

/-- No value is both in quotes and in braces. -/
theorem IsQuote.quoted_ne_braced {q : Char} (hq : IsQuote q) (v inner : Text) :
    quoted q v ≠ braced inner := by
  intro h
  have hbrace : q = '{' := (List.cons.inj h).1
  rcases hq with rfl | rfl <;> exact absurd hbrace (by decide)

/-- What is in the quotes is told by the whole. -/
theorem quoted_inj {q q' : Char} {v v' : Text} (h : quoted q v = quoted q' v') :
    q = q' ∧ v = v' := by
  obtain ⟨rfl, htail⟩ := List.cons.inj h
  exact ⟨rfl, List.append_cancel_right htail⟩

/-- A spelling is made of the value, quotes, braces and blanks. -/
theorem Spells.notMem {v t : Text} (h : Spells v t) {c : Char} (hv : c ∉ v) (hquote : ¬IsQuote c)
    (hbrace : c ≠ '{' ∧ c ≠ '}') (hblank : isSpace c = false) : c ∉ t := by
  have hquoted : ∀ {q : Char}, IsQuote q → c ∉ Attributes.quoted q v := by
    intro q hq hmem
    have hne : c ≠ q := fun hcq => hquote (hcq ▸ hq)
    simp [Attributes.quoted, hne, hv] at hmem
  have hbraced : ∀ {inside : Text}, c ∉ inside → c ∉ Attributes.braced inside := by
    intro inside hinside hmem
    simp [Attributes.braced, hbrace, hinside] at hmem
  cases h with
  | quoted hq ht => exact ht.notMem (hquoted hq) hblank
  | bracedQuoted hq hinside ht =>
      exact ht.notMem (hbraced (hinside.notMem (hquoted hq) hblank)) hblank
  | bare _ _ ht => exact ht.notMem hv hblank
  | braced _ hinside ht => exact ht.notMem (hbraced (hinside.notMem hv hblank)) hblank

/-- A spelling that ends neither with a quote or a brace nor with a blank is the value itself, behind
blanks. -/
theorem Spells.isPadded_of_getLast? {v t : Text} (h : Spells v t) {c : Char}
    (hlast : t.getLast? = some c) (hquote : ¬IsQuote c) (hbrace : c ≠ '}') (hblank : isSpace c = false) :
    Text.IsPadded v t := by
  have hbraced : ∀ {inside : Text}, ¬Text.IsPadded (Attributes.braced inside) t := by
    intro inside ht
    have hend := ht.getLast?_eq hlast hblank
    rw [Attributes.braced, ← List.cons_append, List.getLast?_concat] at hend
    exact hbrace (Option.some.inj hend).symm
  cases h with
  | @quoted q _ hq ht =>
      have hend := ht.getLast?_eq hlast hblank
      rw [Attributes.quoted, ← List.cons_append, List.getLast?_concat] at hend
      exact absurd (Option.some.inj hend ▸ hq) hquote
  | bracedQuoted _ _ ht => exact absurd ht hbraced
  | bare _ _ ht => exact ht
  | braced _ _ ht => exact absurd ht hbraced

/-- A value without blanks that does not begin with a quote can do without quotes. -/
theorem isBare_of_forall {v : Text} (hblank : ∀ c ∈ v, isSpace c = false)
    (hquote : ∀ c, v.head? = some c → ¬IsQuote c) : IsBare v := by
  refine ⟨Text.isTrimmed_of_forall hblank, ?_⟩
  rintro q inner hq rfl
  exact hquote q rfl hq

/-! ### Unwrapping -/

/-- A text is unwrapped when it stands between the two characters. -/
theorem unwrap?_eq_some_iff {opening closing : Char} {t v : Text} :
    bareValue.unwrap? opening closing t = some v ↔ t = opening :: (v ++ [closing]) := by
  cases t with
  | nil => simp [bareValue.unwrap?]
  | cons c t =>
      rw [bareValue.unwrap?, Option.ite_none_right_eq_some, List.cons.injEq, and_assoc]
      refine and_congr_right fun _ => ⟨?_, ?_⟩
      · rintro ⟨hlast, hv⟩
        rw [← Option.some.inj hv, List.dropLast_append_getLast? _ hlast]
      · rintro rfl
        exact ⟨List.getLast?_concat, by rw [List.dropLast_concat]⟩

/-- A layer is taken off if there is one. -/
theorem getD_unwrap?_eq_iff {opening closing : Char} {t v : Text} :
    (bareValue.unwrap? opening closing t).getD t = v ↔
      t = opening :: (v ++ [closing]) ∨ t = v ∧ ∀ inner, v ≠ opening :: (inner ++ [closing]) := by
  cases h : bareValue.unwrap? opening closing t with
  | none =>
      have hnot : ∀ inner, t ≠ opening :: (inner ++ [closing]) := fun inner ht => by
        rw [unwrap?_eq_some_iff.mpr ht] at h
        cases h
      rw [Option.getD_none, or_iff_right (hnot v)]
      exact ⟨fun ht => ⟨ht, ht ▸ hnot⟩, And.left⟩
  | some inner =>
      obtain rfl := unwrap?_eq_some_iff.mp h
      have hlayer : ¬(opening :: (inner ++ [closing]) = v ∧
          ∀ inner, v ≠ opening :: (inner ++ [closing])) := by
        rintro ⟨rfl, hnot⟩
        exact hnot inner rfl
      rw [Option.getD_some, or_iff_left hlayer]
      constructor
      · rintro rfl
        rfl
      · intro ht
        exact List.append_cancel_right (List.cons.inj ht).2

/-- The text without the braces around it, if there are any. -/
def unbrace (t : Text) : Text := (bareValue.unwrap? '{' '}' t).getD t

/-- The text without the quotes around it, if there are any. -/
def unquote (t : Text) : Text :=
  (bareValue.unwrap? '\'' '\'' t).getD ((bareValue.unwrap? '"' '"' t).getD t)

/-- Braces are taken off where there are any; without them a text is left as it is. -/
theorem unbrace_eq_iff {t v : Text} :
    unbrace t = v ↔ t = braced v ∨ t = v ∧ ∀ inner, v ≠ braced inner :=
  getD_unwrap?_eq_iff

/-- Quotes are taken off where there are any; without them a text is left as it is. -/
theorem unquote_eq_iff {t v : Text} :
    unquote t = v ↔ (∃ q, IsQuote q ∧ t = quoted q v) ∨
      t = v ∧ ∀ q inner, IsQuote q → v ≠ quoted q inner := by
  rw [unquote]
  cases h : bareValue.unwrap? '\'' '\'' t with
  | none =>
      have hsingle : ∀ inner, t ≠ quoted '\'' inner := fun inner ht => by
        rw [unwrap?_eq_some_iff.mpr ht] at h
        cases h
      rw [Option.getD_none, getD_unwrap?_eq_iff]
      constructor
      · rintro (ht | ⟨rfl, hdouble⟩)
        · exact .inl ⟨'"', .inr rfl, ht⟩
        · refine .inr ⟨rfl, ?_⟩
          rintro q inner (rfl | rfl)
          · exact hsingle inner
          · exact hdouble inner
      · rintro (⟨q, rfl | rfl, ht⟩ | ⟨rfl, hnot⟩)
        · exact absurd ht (hsingle v)
        · exact .inl ht
        · exact .inr ⟨rfl, fun inner => hnot '"' inner (.inr rfl)⟩
  | some inner =>
      have ht : t = quoted '\'' inner := unwrap?_eq_some_iff.mp h
      rw [Option.getD_some]
      constructor
      · rintro rfl
        exact .inl ⟨'\'', .inl rfl, ht⟩
      · rintro (⟨q, -, hq⟩ | ⟨rfl, hnot⟩)
        · exact (quoted_inj (ht.symm.trans hq)).2
        · exact absurd ht (hnot '\'' inner (.inl rfl))

/-- The layers of a value in the order in which they are taken off. -/
theorem bareValue_eq (t : Text) : bareValue t = unquote (unbrace t.trim).trim := by
  rw [bareValue, unquote]
  simp only [unbrace]
  split
  · next h => rw [h, Option.getD_some]
  · next h => rw [h, Option.getD_none]

/-- A spelling of a value is read as the value. -/
theorem Spells.bareValue_eq {v t : Text} (h : Spells v t) : bareValue t = v := by
  rw [Attributes.bareValue_eq]
  cases h with
  | @quoted q _ hq ht =>
      have hcore : (Attributes.quoted q v).IsTrimmed := hq.isTrimmed_quoted v
      rw [Text.trim_eq_iff.mpr ⟨hcore, ht⟩, unbrace_eq_iff.mpr (.inr ⟨rfl, hq.quoted_ne_braced v⟩),
        Text.trim_eq_self_iff.mpr hcore]
      exact unquote_eq_iff.mpr (.inl ⟨q, hq, rfl⟩)
  | @bracedQuoted q inside _ hq hinside ht =>
      rw [Text.trim_eq_iff.mpr ⟨isTrimmed_braced inside, ht⟩, unbrace_eq_iff.mpr (.inl rfl),
        Text.trim_eq_iff.mpr ⟨hq.isTrimmed_quoted v, hinside⟩]
      exact unquote_eq_iff.mpr (.inl ⟨q, hq, rfl⟩)
  | bare hv hbraces ht =>
      rw [Text.trim_eq_iff.mpr ⟨hv.isTrimmed, ht⟩, unbrace_eq_iff.mpr (.inr ⟨rfl, hbraces⟩),
        Text.trim_eq_self_iff.mpr hv.isTrimmed]
      exact unquote_eq_iff.mpr (.inr ⟨rfl, hv.ne_quoted⟩)
  | @braced inside _ hv hinside ht =>
      rw [Text.trim_eq_iff.mpr ⟨isTrimmed_braced inside, ht⟩, unbrace_eq_iff.mpr (.inl rfl),
        Text.trim_eq_iff.mpr ⟨hv.isTrimmed, hinside⟩]
      exact unquote_eq_iff.mpr (.inr ⟨rfl, hv.ne_quoted⟩)

/-- A text spells the value that is read of it: each layer is there, or there is none to take off. -/
theorem spells_of_bareValue {v t : Text} (h : bareValue t = v) : Spells v t := by
  rw [bareValue_eq] at h
  generalize hwhole : t.trim = whole at h
  generalize hinside : unbrace whole = inside at h
  generalize hcore : inside.trim = core at h
  obtain ⟨hwhole, ht⟩ := Text.trim_eq_iff.mp hwhole
  rcases unbrace_eq_iff.mp hinside with rfl | ⟨rfl, hbraces⟩
  · obtain ⟨hcore, hpadded⟩ := Text.trim_eq_iff.mp hcore
    rcases unquote_eq_iff.mp h with ⟨q, hq, rfl⟩ | ⟨rfl, hquotes⟩
    · exact .bracedQuoted hq hpadded ht
    · exact .braced ⟨hcore, hquotes⟩ hpadded ht
  · obtain rfl : whole = core := (Text.trim_eq_self_iff.mpr hwhole).symm.trans hcore
    rcases unquote_eq_iff.mp h with ⟨q, hq, rfl⟩ | ⟨rfl, hquotes⟩
    · exact .quoted hq ht
    · exact .bare ⟨hwhole, hquotes⟩ hbraces ht

/-- **The value of a text is the one that the text spells.** So every value is read of each of its
spellings: of `'v'`, `"v"`, `{'v'}` and `{"v"}` with blanks around the whole and inside the braces, and
of `v` and `{v}` when `v` can do without quotes and, for `v`, without braces. No other text is read as
the value. -/
theorem bareValue_eq_iff (v t : Text) : bareValue t = v ↔ Spells v t :=
  ⟨spells_of_bareValue, Spells.bareValue_eq⟩

/-- Quotes and braces in the value, blanks in and around the layers, and a value that ends with half a
wrapping. -/
example : bareValue "\n\x7b \"'\x7bé'\" \x7d ".toList = "'\x7bé'".toList ∧
    bareValue "\x7b it's' \x7d".toList = "it's'".toList := by decide +kernel

/-- A value in quotes stands for the text between them. -/
theorem bareValue_quoted {q : Char} (hq : IsQuote q) (v : Text) :
    bareValue (q :: (v ++ [q])) = v :=
  (Spells.quoted hq (.refl (quoted q v))).bareValue_eq

/-- A value in braces stands for the text between them, when that has no blanks and does not begin
with a quote. -/
theorem bareValue_braced {v : Text} (hblank : ∀ c ∈ v, isSpace c = false)
    (hquote : ∀ c, v.head? = some c → ¬IsQuote c) : bareValue ('{' :: (v ++ ['}'])) = v :=
  (Spells.braced (isBare_of_forall hblank hquote) (.refl v) (.refl (braced v))).bareValue_eq

/-- Two attributes with one name, and values that are spellings of one value. -/
def SaysSame (p p' : Text × Text) : Prop := p.1 = p'.1 ∧ ∃ v, Spells v p.2 ∧ Spells v p'.2

/-- **Attributes whose values are spelled in other ways read the same.** -/
theorem bare?_respelled {as as' : Attributes} (h : List.Forall₂ SaysSame as.pairs as'.pairs)
    (key : String) : as.bare? key = as'.bare? key := by
  simp only [bare?, get?, Option.map_map]
  generalize as.pairs = ps at h ⊢
  generalize as'.pairs = ps' at h ⊢
  induction h with
  | nil => rfl
  | @cons p p' ps ps' hsame _ ih =>
      obtain ⟨hname, v, hv, hv'⟩ := hsame
      simp only [List.find?_cons, hname]
      cases p'.1 == key.toList with
      | true => exact congrArg some (hv.bareValue_eq.trans hv'.bareValue_eq.symm)
      | false => exact ih

/-! ### Pairs -/

/-- A blank is no part of a name. -/
theorem not_isNameChar_of_isAsciiSpace {c : Char} (h : isAsciiSpace c = true) :
    isNameChar c = false := by
  simp only [isAsciiSpace, Bool.or_eq_true, decide_eq_true_eq] at h
  rcases h with (((rfl | rfl) | rfl) | rfl) | rfl <;> decide

/-- A character of a name is no blank. -/
theorem not_isAsciiSpace_of_isNameChar {c : Char} (h : isNameChar c = true) :
    isAsciiSpace c = false := by
  cases hblank : isAsciiSpace c with
  | false => rfl
  | true => exact absurd h (by rw [not_isNameChar_of_isAsciiSpace hblank]; decide)

/-- A character that belongs to no attribute is passed over. -/
theorem readPairs_skip {c : Char} (hbrace : c ≠ '{') (hname : isNameChar c = false) (t : Text) :
    readPairs (c :: t) = readPairs t := by
  rw [readPairs, if_neg hbrace, hname]
  rfl

/-- Blanks belong to no attribute. -/
theorem readPairs_blanks {blanks : Text} (h : ∀ c ∈ blanks, isAsciiSpace c = true) (t : Text) :
    readPairs (blanks ++ t) = readPairs t := by
  induction blanks with
  | nil => rfl
  | cons c blanks ih =>
      have hc : isAsciiSpace c = true := h c List.mem_cons_self
      have hbrace : c ≠ '{' := by
        rintro rfl
        exact absurd hc (by decide)
      rw [List.cons_append, readPairs_skip hbrace (not_isNameChar_of_isAsciiSpace hc)]
      exact ih fun d hd => h d (List.mem_cons_of_mem c hd)

variable {name : Text}

/-- A name is read as far as it goes. What stands behind it and the blanks makes it a flag or the
name of a value. -/
theorem readPairs_name (hne : name ≠ []) (hname : ∀ c ∈ name, isNameChar c = true) {t : Text}
    (hend : ∀ c, t.head? = some c → isNameChar c = false) :
    (∀ more, t.dropWhile isAsciiSpace = '=' :: more →
      readPairs (name ++ t) = (name, (readValue (more.dropWhile isAsciiSpace)).1) ::
        readPairs (readValue (more.dropWhile isAsciiSpace)).2) ∧
    ((t.dropWhile isAsciiSpace).head? ≠ some '=' →
      readPairs (name ++ t) = (name, []) :: readPairs t) := by
  cases name with
  | nil => exact absurd rfl hne
  | cons c name =>
      have hc : isNameChar c = true := hname c List.mem_cons_self
      have hbrace : c ≠ '{' := by
        rintro rfl
        exact absurd hc (by decide)
      have htail : ∀ d ∈ name, isNameChar d = true := fun d hd =>
        hname d (List.mem_cons_of_mem c hd)
      obtain ⟨htake, hdrop⟩ := Text.takeWhile_dropWhile_append htail hend
      rw [List.cons_append, readPairs, if_neg hbrace, if_pos hc]
      simp only [htake]
      refine ⟨?_, ?_⟩
      · intro more hmore
        split
        · next more' hmore' =>
          rw [hdrop, hmore] at hmore'
          rw [(List.cons.inj hmore').2]
        · next hnot => exact absurd (by rw [hdrop, hmore]) (hnot more)
      · intro hnext
        split
        · next more' hmore' =>
          rw [hdrop] at hmore'
          exact absurd (by rw [hmore', List.head?_cons]) hnext
        · rw [hdrop]

/-- A name without an equals sign is a flag, and the reading goes on behind the name. -/
theorem readPairs_flag (hne : name ≠ []) (hname : ∀ c ∈ name, isNameChar c = true) {t : Text}
    (hend : ∀ c, t.head? = some c → isNameChar c = false)
    (hnext : (t.dropWhile isAsciiSpace).head? ≠ some '=') :
    readPairs (name ++ t) = (name, []) :: readPairs t :=
  (readPairs_name hne hname hend).2 hnext

/-- A name with an equals sign has the value that is read behind the sign, with blanks on both sides
of it or not, and the reading goes on behind the value. -/
theorem readPairs_valued (hne : name ≠ []) (hname : ∀ c ∈ name, isNameChar c = true)
    {before behind value t : Text} (hbefore : ∀ c ∈ before, isAsciiSpace c = true)
    (hbehind : ∀ c ∈ behind, isAsciiSpace c = true)
    (hhead : ∀ c, (value ++ t).head? = some c → isAsciiSpace c = false)
    (hvalue : readValue (value ++ t) = (value, t)) :
    readPairs (name ++ (before ++ '=' :: (behind ++ (value ++ t)))) =
      (name, value) :: readPairs t := by
  have hend : ∀ c, (before ++ '=' :: (behind ++ (value ++ t))).head? = some c →
      isNameChar c = false := by
    intro c hc
    cases before with
    | nil =>
        obtain rfl := Option.some.inj hc
        decide
    | cons d before =>
        obtain rfl := Option.some.inj hc
        exact not_isNameChar_of_isAsciiSpace (hbefore d List.mem_cons_self)
  have hequals : ∀ c, ('=' :: (behind ++ (value ++ t))).head? = some c →
      isAsciiSpace c = false := by
    intro c hc
    obtain rfl := Option.some.inj hc
    decide
  obtain ⟨-, hsign⟩ := Text.takeWhile_dropWhile_append hbefore hequals
  obtain ⟨-, hdrop⟩ := Text.takeWhile_dropWhile_append hbehind hhead
  rw [(readPairs_name hne hname hend).1 _ hsign, hdrop, hvalue]

/-- An attribute with a value in quotes is read as it is written, and the reading goes on behind
it. -/
theorem readPairs_quoted {v : Text} {q : Char} (hne : name ≠ [])
    (hname : ∀ c ∈ name, isNameChar c = true) (hq : IsQuote q) (hv : q ∉ v) (t : Text) :
    readPairs (name ++ '=' :: q :: (v ++ q :: t)) = (name, q :: (v ++ [q])) :: readPairs t := by
  have hsplit : q :: (v ++ [q]) ++ t = q :: (v ++ q :: t) := by simp
  have hhead : ∀ c, (q :: (v ++ [q]) ++ t).head? = some c → isAsciiSpace c = false := by
    intro c hc
    obtain rfl := Option.some.inj hc
    exact hq.not_isAsciiSpace
  have hread := @readPairs_valued name hne hname [] [] _ t (by simp) (by simp) hhead
    (hsplit ▸ readValue_quoted hq hv t)
  rwa [List.nil_append, List.nil_append, hsplit] at hread

end PageLint.Attributes
