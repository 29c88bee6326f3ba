import PageLint.Proofs.AttributeBytes
import PageLint.Proofs.WrittenAttributes

/-!
# Places of attributes

Attributes are read from any text, well-formed or not. Each name and each value that is read is a part
of the text (`Text.Slice`). A value that is not closed goes on to the end of the text
(`Attributes.EndsValue`), and an expression in braces where a name would stand is passed over as a whole.

The places are those of a walk through the text from left to right (`Attributes.Walk`). At each step it
takes off one character that belongs to nothing, one expression, or one attribute. The walk says what
these look like and not how they are found, so that the reader and the walk are shown to agree: every
text has a walk, and what is read are the attributes of the walk.

## Main results

* `Attributes.readBraces_endsBraces`, `Attributes.readValue_endsValue`: where expressions and values end,
  closed or not.
* `Attributes.EndsBraces.readBraces_append`, `Attributes.EndsValue.readValue_append`: what ends so is read.
* `Attributes.exists_walk`, `Attributes.Walk.readPairs_eq`: **what is read** are the attributes of a walk.
-/

namespace PageLint

/-! ### Parts of a text -/

/-- A part of a text, with what stands before it and behind it. -/
structure Text.Slice (raw : Text) where
  /-- What stands before the part. -/
  before : Text
  /-- The part. -/
  text : Text
  /-- What stands behind the part. -/
  behind : Text
  /-- These are the text. -/
  split : before ++ (text ++ behind) = raw

namespace Text.Slice

variable {raw : Text} (s t : Slice raw)

/-- The position of the first byte. -/
def start : Nat := utf8Size s.before

/-- The position behind the last byte. -/
def stop : Nat := s.start + utf8Size s.text

/-- A part is cut out at its positions. -/
theorem slice?_eq : raw.slice? s.start s.stop = some s.text := by
  have hslice := slice?_between s.before s.text s.behind
  rwa [s.split, utf8Size_append] at hslice

/-- What stands before a part and the part end where the part ends. -/
theorem stop_eq : s.stop = utf8Size (s.before ++ s.text) := (utf8Size_append _ _).symm

/-- The text is what stands before a slice, the slice, and what stands behind it. -/
theorem split_behind : s.before ++ s.text ++ s.behind = raw := by rw [List.append_assoc, s.split]

/-- A part ends where what stands behind it begins. -/
theorem stop_add : s.stop + utf8Size s.behind = utf8Size raw := by
  have hsize := congrArg utf8Size s.split
  rw [utf8Size_append, utf8Size_append, ← Nat.add_assoc] at hsize
  exact hsize

/-- A part begins where it and what stands behind it begin. -/
theorem start_add : s.start + utf8Size (s.text ++ s.behind) = utf8Size raw := by
  rw [← s.stop_add, stop, utf8Size_append, Nat.add_assoc]

/-- A slice does not end before it starts. -/
theorem start_le_stop : s.start ≤ s.stop := Nat.le_add_right _ _

/-- A part with a character ends behind its beginning. -/
theorem start_lt_stop (h : s.text ≠ []) : s.start < s.stop :=
  Nat.lt_add_of_pos_right (utf8Size_pos h)

/-- Behind a part with a character less is left. -/
theorem utf8Size_behind_lt (h : s.text ≠ []) : utf8Size s.behind < utf8Size (s.text ++ s.behind) := by
  rw [utf8Size_append]
  exact Nat.lt_add_of_pos_left (utf8Size_pos h)

/-- A part that begins behind a text begins what is left there. -/
theorem text_append_behind {before left : Text} (hsplit : before ++ left = raw)
    (hstart : s.start = utf8Size before) : s.text ++ s.behind = left :=
  (append_inj_of_utf8Size_eq (s.split.trans hsplit.symm) hstart).2

/-- A part that does not begin with a character begins behind it. -/
theorem utf8Size_concat_le_start {before t : Text} {c : Char} (hsplit : before ++ c :: t = raw)
    (hle : utf8Size before ≤ s.start) (hne : s.text ≠ []) (hhead : s.text.head? ≠ some c) :
    utf8Size (before ++ [c]) ≤ s.start := by
  obtain ⟨part, hbefore, hrest⟩ := exists_of_boundaries (hsplit.trans s.split.symm) hle
  cases part with
  | nil =>
      obtain ⟨d, text, htext⟩ := List.exists_cons_of_ne_nil hne
      rw [htext] at hrest hhead
      obtain rfl := (List.cons.inj hrest).1
      exact absurd rfl hhead
  | cons d part =>
      obtain ⟨rfl, -⟩ := List.cons.inj hrest
      rw [start, hbefore, utf8Size_concat, utf8Size_append, utf8Size_cons]
      omega

/-- Does the part hold the byte at the position? -/
def Holds (i : Nat) : Prop := s.start ≤ i ∧ i < s.stop

/-- Does the part begin and end before another one begins? An empty part begins before as well. -/
def Precedes : Prop := s.start < t.start ∧ s.stop ≤ t.start

/-- A slice precedes what comes after a slice that it precedes. -/
theorem Precedes.trans {s t u : Slice raw} (hst : s.Precedes t) (htu : t.Precedes u) :
    s.Precedes u := ⟨hst.1.trans htu.1, hst.2.trans htu.1.le⟩

/-- Of two parts one behind the other, neither holds where the other begins. -/
theorem Precedes.not_holds {s t : Slice raw} (h : s.Precedes t) :
    ¬s.Holds t.start ∧ ¬t.Holds s.start :=
  ⟨fun hholds => Nat.not_lt.mpr h.2 hholds.2, fun hholds => Nat.not_lt.mpr hholds.1 h.1⟩

/-- A part holds the positions of its characters. -/
theorem holds_of_text_eq {front back : Text} {c : Char} (htext : s.text = front ++ c :: back) {i : Nat}
    (hi : i + utf8Size (c :: (back ++ s.behind)) = utf8Size raw) : s.Holds i := by
  have hpos := Char.utf8Size_pos c
  have hend := s.stop_add
  have hsize : utf8Size s.text = utf8Size front + (c.utf8Size + utf8Size back) := by
    rw [htext, utf8Size_append, utf8Size_cons]
  rw [utf8Size_cons, utf8Size_append] at hi
  rw [stop] at hend
  refine ⟨?_, ?_⟩
  · omega
  · rw [stop]
    omega

end Text.Slice

/-- A character of two texts is in the first or in the second. -/
theorem Text.append_eq_cases {a b front back : Text} {c : Char} (h : a ++ b = front ++ c :: back) :
    (∃ a', a = front ++ c :: a' ∧ back = a' ++ b) ∨ ∃ front', b = front' ++ c :: back := by
  rcases List.append_eq_append_iff.mp h with ⟨front', rfl, hb⟩ | ⟨part, rfl, hpart⟩
  · exact Or.inr ⟨front', hb⟩
  · cases part with
    | nil => exact Or.inr ⟨[], by simpa using hpart.symm⟩
    | cons d part =>
        obtain ⟨rfl, rfl⟩ := List.cons.inj hpart
        exact Or.inl ⟨part, rfl, rfl⟩

/-- A character that is not in the first of two texts is in the second. -/
theorem Text.exists_of_append_eq_of_notMem {a b front back : Text} {c : Char} (ha : c ∉ a)
    (h : a ++ b = front ++ c :: back) : ∃ front', b = front' ++ c :: back := by
  rcases append_eq_cases h with ⟨a', rfl, -⟩ | hb
  · exact absurd (List.mem_append_right front List.mem_cons_self) ha
  · exact hb

namespace Attributes

open Text (Slice utf8Size utf8Size_append utf8Size_cons)

/-! ### Forms -/

/-- Is this the longest name in front of the rest? -/
structure IsName (name behind : Text) : Prop where
  /-- A name has a character. -/
  ne_nil : name ≠ []
  /-- A name is made of letters, digits and a few marks. -/
  isNameChar_of_mem : ∀ c ∈ name, isNameChar c = true
  /-- It goes on as far as it can. -/
  longest : ∀ c, behind.head? = some c → isNameChar c = false

/-- Does an expression in braces end here? It ends with the brace that closes it, or with the text if
none does. -/
inductive EndsBraces : (expression behind : Text) → Prop where
  /-- The brace that closes the first one is the last character. -/
  | closed {e behind : Text} : IsBraceExpression e → EndsBraces e behind
  /-- Some brace is open up to the end. -/
  | unclosed {e : Text} : e.head? = some '{' →
      (∀ n ≤ e.length, 0 < n → (Nesting.start.through (e.take n)).depth ≠ 0) → EndsBraces e []

/-- Does the value behind an equals sign end here? -/
inductive EndsValue : (value behind : Text) → Prop where
  /-- There is none, because the text is at its end. -/
  | missing : EndsValue [] []
  /-- A text in quotes goes up to the first quote of its kind. -/
  | quoted {q : Char} {v behind : Text} : IsQuote q → q ∉ v → EndsValue (q :: (v ++ [q])) behind
  /-- Without one it goes on to the end. -/
  | unclosed {q : Char} {v : Text} : IsQuote q → q ∉ v → EndsValue (q :: v) []
  /-- An expression in braces. -/
  | braces {v behind : Text} : EndsBraces v behind → EndsValue v behind
  /-- A bare word goes up to the first blank, or to the end. -/
  | bare {c : Char} {v behind : Text} : ¬IsQuote c → c ≠ '{' →
      (∀ d ∈ c :: v, isAsciiSpace d = false) →
      (∀ d, behind.head? = some d → isAsciiSpace d = true) → EndsValue (c :: v) behind

/-- Braces that are open at a place and at the places behind the next character are open throughout. -/
theorem Nesting.depth_take_cons_ne_zero {w : Nesting} (hhere : w.depth ≠ 0) {c : Char} {v : Text}
    {k : Nat} (h : ∀ n < k, ((w.step c).through (v.take n)).depth ≠ 0) :
    ∀ n < k + 1, (w.through ((c :: v).take n)).depth ≠ 0 := by
  intro n hn
  cases n with
  | zero => exact hhere
  | succ n => exact h n (Nat.lt_of_succ_lt_succ hn)

/-- Where an expression ends, from a place inside of it: at the first place where no brace is open, or
with the text. -/
theorem readBraces_cases {depth : Nat} (hopen : 0 < depth) (quote : Option Char) (t : Text) :
    let v := (readBraces depth quote t).1
    let walk := Nesting.through ⟨depth, quote⟩
    walk v = Nesting.start ∧ (∀ n < v.length, (walk (v.take n)).depth ≠ 0) ∨
      (readBraces depth quote t).2 = [] ∧ ∀ n < v.length + 1, (walk (v.take n)).depth ≠ 0 := by
  have hhere : ∀ {depth : Nat} {quote : Option Char}, 0 < depth → (Nesting.mk depth quote).depth ≠ 0 :=
    fun hopen => Int.natCast_ne_zero.mpr (Nat.ne_of_gt hopen)
  induction t generalizing depth quote with
  | nil =>
      refine Or.inr ⟨rfl, fun n hn => ?_⟩
      obtain rfl := Nat.lt_one_iff.mp hn
      exact hhere hopen
  | cons c t ih =>
      rcases readBraces_cons hopen quote c with ⟨depth', quote', hopen', hstep, hread⟩ | ⟨hstep, hread⟩
      · simp only [hread, List.length_cons]
        rcases ih hopen' quote' with ⟨hend, hfirst⟩ | ⟨hrest, hunclosed⟩
        · rw [← hstep] at hend hfirst
          exact Or.inl ⟨hend, Nesting.depth_take_cons_ne_zero (hhere hopen) hfirst⟩
        · rw [← hstep] at hunclosed
          exact Or.inr ⟨hrest, Nesting.depth_take_cons_ne_zero (hhere hopen) hunclosed⟩
      · simp only [hread, List.length_singleton]
        refine Or.inl ⟨hstep, fun n hn => ?_⟩
        obtain rfl := Nat.lt_one_iff.mp hn
        exact hhere hopen

/-- **Where an expression in braces ends.** -/
theorem readBraces_endsBraces (t : Text) :
    EndsBraces (readBraces 0 none ('{' :: t)).1 (readBraces 0 none ('{' :: t)).2 := by
  have hread : readBraces 0 none ('{' :: t) =
      ('{' :: (readBraces 1 none t).1, (readBraces 1 none t).2) := rfl
  rw [hread]
  rcases readBraces_cases Nat.one_pos none t with ⟨hend, hfirst⟩ | ⟨hrest, hunclosed⟩
  · refine .closed ⟨rfl, hend, fun n hn hpos => ?_⟩
    obtain ⟨n, rfl⟩ := Nat.exists_eq_succ_of_ne_zero (Nat.ne_of_gt hpos)
    exact hfirst n (Nat.lt_of_succ_lt_succ hn)
  · simp only [hrest]
    refine .unclosed rfl fun n hn hpos => ?_
    obtain ⟨n, rfl⟩ := Nat.exists_eq_succ_of_ne_zero (Nat.ne_of_gt hpos)
    exact hunclosed n hn

/-- An expression in braces begins with a brace. -/
theorem EndsBraces.head?_eq {e behind : Text} (h : EndsBraces e behind) : e.head? = some '{' := by
  cases h with
  | closed h => exact h.opens
  | unclosed hopens _ => exact hopens

/-- An expression in braces has a character. -/
theorem EndsBraces.ne_nil {e behind : Text} (h : EndsBraces e behind) : e ≠ [] := by
  rintro rfl
  cases h.head?_eq

/-- A text in quotes without the quote that closes it goes on to the end. -/
theorem readQuoted_of_notMem {q : Char} {t : Text} (h : q ∉ t) : readQuoted q t = (t, []) := by
  have hfst : (readQuoted q t).1 = t := by rw [readQuoted_fst, if_neg h]
  have htext := readQuoted_text q t
  rw [hfst, List.append_right_eq_self] at htext
  exact Prod.ext hfst htext

/-- **Where a value ends**, behind the blanks. -/
theorem readValue_endsValue {t : Text} (ht : ∀ c, t.head? = some c → isAsciiSpace c = false) :
    EndsValue (readValue t).1 (readValue t).2 := by
  cases t with
  | nil => exact .missing
  | cons c t =>
      have hc : isAsciiSpace c = false := ht c rfl
      rw [readValue]
      split
      · next hquote =>
        by_cases hmem : c ∈ t
        · obtain ⟨v, rest, rfl, hv⟩ := List.eq_append_cons_of_mem hmem
          rw [readQuoted_append hv]
          exact .quoted hquote hv
        · rw [readQuoted_of_notMem hmem]
          exact .unclosed hquote hmem
      · next hquote =>
        split
        · next hbrace =>
          subst hbrace
          exact .braces (readBraces_endsBraces t)
        · next hbrace =>
          rw [List.takeWhile_cons_of_pos (by rw [hc]; rfl)]
          refine .bare hquote hbrace ?_ fun d hd => ?_
          · refine List.forall_mem_cons.mpr ⟨hc, fun d hd => ?_⟩
            simpa using List.mem_takeWhile_imp hd
          · simpa using Text.not_of_head?_dropWhile hd

/-- A piece with a value at the head of a text: there are only blanks around its equals sign, and the
value ends where the piece does. -/
theorem endsValue_of_headPiece {c : Char} {t name before behind value : Text}
    (h : (headPiece c t).1 = .valued name before behind value) :
    (∀ d ∈ before, isAsciiSpace d = true) ∧ (∀ d ∈ behind, isAsciiSpace d = true) ∧
      EndsValue value (headPiece c t).2 := by
  rw [headPiece] at h ⊢
  split at h
  · cases h
  · next hbrace =>
    rw [if_neg hbrace]
    split at h
    · next hname =>
      rw [if_pos hname]
      simp only at h ⊢
      split at h
      · next more _ =>
        obtain ⟨-, rfl, rfl, rfl⟩ := Piece.valued.inj h
        exact ⟨fun d hd => List.mem_takeWhile_imp hd, fun d hd => List.mem_takeWhile_imp hd,
          readValue_endsValue fun d hd => Text.not_of_head?_dropWhile hd⟩
      · cases h
    · cases h

/-- **Where an attribute with a value stands** in the text. -/
theorem exists_valued_of_mem_pieces {t name before behind value : Text}
    (h : .valued name before behind value ∈ pieces t) :
    ∃ front back, t = front ++ (Piece.text (.valued name before behind value) ++ back) ∧
      (∀ d ∈ before, isAsciiSpace d = true) ∧ (∀ d ∈ behind, isAsciiSpace d = true) ∧
      EndsValue value back := by
  obtain ⟨front, c, u, rfl, hpiece⟩ := exists_headPiece_of_mem h
  refine ⟨front, (headPiece c u).2, ?_, endsValue_of_headPiece hpiece⟩
  rw [← hpiece, headPiece_text]

/-- An expression is read as far as it goes. -/
theorem EndsBraces.readBraces_append {e behind : Text} (h : EndsBraces e behind) :
    readBraces 0 none (e ++ behind) = (e, behind) := by
  cases h with
  | closed h => exact h.readBraces_append behind
  | unclosed hopens hunclosed =>
      obtain ⟨t, rfl⟩ := List.head?_eq_some_iff.mp hopens
      have htext := readBraces_text 0 none ('{' :: t)
      have hends := readBraces_endsBraces t
      rw [List.append_nil]
      generalize readBraces 0 none ('{' :: t) = r at htext hends ⊢
      obtain ⟨e, behind⟩ := r
      simp only at htext hends
      cases hends with
      | closed hclosed =>
          have hlength := congrArg List.length htext
          rw [List.length_append] at hlength
          have hne : e ≠ [] := by
            rintro rfl
            cases hclosed.opens
          have hdepth := hunclosed e.length (by omega) (List.length_pos_iff.mpr hne)
          rw [← htext, List.take_left, hclosed.closes] at hdepth
          exact absurd rfl hdepth
      | unclosed => rw [← htext, List.append_nil]

/-- Only at the end of the text there is no value behind an equals sign. -/
theorem EndsValue.behind_eq_nil {behind : Text} (h : EndsValue [] behind) : behind = [] := by
  cases h with
  | missing => rfl
  | braces h => cases h.head?_eq

/-- A value begins with no blank. -/
theorem EndsValue.not_isAsciiSpace {v behind : Text} (h : EndsValue v behind) {c : Char}
    (hc : (v ++ behind).head? = some c) : isAsciiSpace c = false := by
  cases h with
  | missing => cases hc
  | quoted hq _ => exact Option.some.inj hc ▸ hq.not_isAsciiSpace
  | unclosed hq _ => exact Option.some.inj hc ▸ hq.not_isAsciiSpace
  | braces h =>
      obtain ⟨t, rfl⟩ := List.head?_eq_some_iff.mp h.head?_eq
      obtain rfl := Option.some.inj hc
      decide
  | bare _ _ hblank _ => exact Option.some.inj hc ▸ hblank _ List.mem_cons_self

/-- **A value is read as far as it goes.** -/
theorem EndsValue.readValue_append {v behind : Text} (h : EndsValue v behind) :
    readValue (v ++ behind) = (v, behind) := by
  cases h with
  | missing => rfl
  | @quoted q v _ hq hmem =>
      rw [List.cons_append, List.append_assoc]
      exact readValue_quoted hq hmem behind
  | @unclosed q v hq hmem =>
      rw [List.append_nil, readValue, if_pos (show q = '\'' ∨ q = '"' from hq),
        readQuoted_of_notMem hmem]
  | braces h =>
      have hread := h.readBraces_append
      obtain ⟨t, rfl⟩ := List.head?_eq_some_iff.mp h.head?_eq
      rwa [List.cons_append, readValue, if_neg (by decide), if_pos rfl]
  | bare hquote hbrace hblank hend =>
      refine (IsValue.bare (List.cons_ne_nil _ _) hblank fun d hd => ?_).readValue_append hend
      obtain rfl := Option.some.inj hd
      exact ⟨hquote, hbrace⟩

/-- A value that begins neither with a quote nor with a brace ends at a blank or with the text. -/
theorem EndsValue.isAsciiSpace_of_head? {v behind : Text} (h : EndsValue v behind)
    (hhead : ∀ c, v.head? = some c → ¬IsQuote c ∧ c ≠ '{') {d : Char}
    (hd : behind.head? = some d) : isAsciiSpace d = true := by
  cases h with
  | missing => cases hd
  | quoted hq _ => exact absurd hq (hhead _ rfl).1
  | unclosed _ _ => cases hd
  | braces h => exact absurd rfl (hhead _ h.head?_eq).2
  | bare _ _ _ hend => exact hend d hd

/-! ### Walks -/

/-- An attribute and where it stands. The value of a flag is the empty part right behind its name. -/
structure Place (raw : Text) where
  /-- The name. -/
  name : Slice raw
  /-- The value. -/
  value : Slice raw

namespace Place

variable {raw : Text} (p : Place raw)

/-- What the attribute says. -/
def pair : Text × Text := (p.name.text, p.value.text)

/-- The two parts in their order. -/
def slices : List (Slice raw) := [p.name, p.value]

variable {p}

/-- The name of a place is one of the slices. -/
theorem name_mem_slices {ps : List (Place raw)} (h : p ∈ ps) : p.name ∈ ps.flatMap slices :=
  List.mem_flatMap.mpr ⟨p, h, List.mem_cons_self⟩

/-- The value of a place is one of the slices. -/
theorem value_mem_slices {ps : List (Place raw)} (h : p ∈ ps) : p.value ∈ ps.flatMap slices :=
  List.mem_flatMap.mpr ⟨p, h, List.mem_cons_of_mem _ List.mem_cons_self⟩

variable (p)

/-- Is the value the one of the name? -/
inductive Reads : Prop where
  /-- No equals sign is behind the name and the blanks there. -/
  | flag : p.value.text = [] → p.value.behind = p.name.behind →
      (p.name.behind.dropWhile isAsciiSpace).head? ≠ some '=' → Reads
  /-- The value is behind an equals sign, with blanks on both sides of it or not. -/
  | valued {before behind : Text} : (∀ c ∈ before, isAsciiSpace c = true) →
      (∀ c ∈ behind, isAsciiSpace c = true) →
      p.name.behind = before ++ '=' :: (behind ++ (p.value.text ++ p.value.behind)) →
      EndsValue p.value.text p.value.behind → Reads

end Place

/-- A walk through a text from left to right: what is left of the text, the attributes there, and the
expressions in braces that stand for none. -/
inductive Walk (raw : Text) : (left : Text) → List (Place raw) → List (Slice raw) → Prop where
  /-- The end of the text. -/
  | done : Walk raw [] [] []
  /-- A character that belongs to nothing. -/
  | stray {c : Char} {t : Text} {ps : List (Place raw)} {es : List (Slice raw)} : c ≠ '{' →
      isNameChar c = false → Walk raw t ps es → Walk raw (c :: t) ps es
  /-- An expression in braces. -/
  | braces {e : Slice raw} {ps : List (Place raw)} {es : List (Slice raw)} :
      EndsBraces e.text e.behind → Walk raw e.behind ps es → Walk raw (e.text ++ e.behind) ps (e :: es)
  /-- An attribute. -/
  | pair {p : Place raw} {ps : List (Place raw)} {es : List (Slice raw)} :
      IsName p.name.text p.name.behind → p.Reads → Walk raw p.value.behind ps es →
      Walk raw (p.name.text ++ p.name.behind) (p :: ps) es

/-- Between a name and its value stand blanks and an equals sign, or nothing. -/
theorem Place.Reads.exists_passed {raw : Text} {p : Place raw} (h : p.Reads) :
    ∃ passed, p.name.behind = passed ++ (p.value.text ++ p.value.behind) ∧
      ∀ c ∈ passed, c ≠ '{' ∧ isNameChar c = false := by
  cases h with
  | flag hempty hbehind _ =>
      refine ⟨[], ?_, fun c hc => absurd hc List.not_mem_nil⟩
      rw [hempty, hbehind, List.nil_append, List.nil_append]
  | @valued before behind hbefore hblanks hbehind _ =>
      have hblank : ∀ c, isAsciiSpace c = true → c ≠ '{' ∧ isNameChar c = false := by
        refine fun c hc => ⟨?_, not_isNameChar_of_isAsciiSpace hc⟩
        rintro rfl
        exact absurd hc (by decide)
      refine ⟨before ++ '=' :: behind, ?_, fun c hc => ?_⟩
      · rw [hbehind, List.append_assoc, List.cons_append]
      · rcases List.mem_append.mp hc with hc | hc
        · exact hblank c (hbefore c hc)
        · rcases List.mem_cons.mp hc with rfl | hc
          · decide
          · exact hblank c (hblanks c hc)

/-- A value stands behind its name. -/
theorem Place.Reads.stop_le_start {raw : Text} {p : Place raw} (h : p.Reads) :
    p.name.stop ≤ p.value.start := by
  obtain ⟨passed, hbehind, -⟩ := h.exists_passed
  have hname := p.name.stop_add
  have hvalue := p.value.start_add
  rw [hbehind, utf8Size_append] at hname
  omega

/-- A name precedes its value. -/
theorem Place.Reads.name_precedes {raw : Text} {p : Place raw} (h : p.Reads)
    (hname : IsName p.name.text p.name.behind) : p.name.Precedes p.value :=
  ⟨(p.name.start_lt_stop hname.ne_nil).trans_le h.stop_le_start, h.stop_le_start⟩

/-- Behind an attribute less is left. -/
theorem Place.Reads.utf8Size_behind_lt {raw : Text} {p : Place raw} (h : p.Reads)
    (hname : IsName p.name.text p.name.behind) :
    utf8Size p.value.behind < utf8Size (p.name.text ++ p.name.behind) := by
  have hwhole := p.name.start_add
  have hlt := (h.name_precedes hname).1
  have hend := p.value.stop_add
  have hstop := p.value.start_le_stop
  omega

/-! ### Walks and what is read -/

variable {raw : Text}

/-- A name in what is left of a text is that of an attribute. -/
theorem exists_place {before left : Text} (hsplit : before ++ left = raw) {c : Char}
    (hhead : left.head? = some c) (hc : isNameChar c = true) :
    ∃ p : Place raw, left = p.name.text ++ p.name.behind ∧ IsName p.name.text p.name.behind ∧
      p.Reads := by
  let name := left.takeWhile isNameChar
  let rest := left.dropWhile isNameChar
  have hleft : name ++ rest = left := List.takeWhile_append_dropWhile
  have hname : IsName name rest := by
    refine ⟨?_, fun d hd => List.mem_takeWhile_imp hd, fun d hd => Text.not_of_head?_dropWhile hd⟩
    cases left with
    | nil => cases hhead
    | cons d left =>
        obtain rfl := Option.some.inj hhead
        simp [name, hc]
  have hnameSplit : before ++ (name ++ rest) = raw := by rw [hleft, hsplit]
  by_cases hsign : (rest.dropWhile isAsciiSpace).head? = some '='
  · obtain ⟨more, hmore⟩ := List.head?_eq_some_iff.mp hsign
    let value := readValue (more.dropWhile isAsciiSpace)
    have hrest : rest = rest.takeWhile isAsciiSpace ++
        '=' :: (more.takeWhile isAsciiSpace ++ (value.1 ++ value.2)) := by
      rw [readValue_text, List.takeWhile_append_dropWhile, ← hmore, List.takeWhile_append_dropWhile]
    have hvalueSplit : before ++ (name ++ (rest.takeWhile isAsciiSpace ++
        '=' :: more.takeWhile isAsciiSpace)) ++ (value.1 ++ value.2) = raw := by
      have hwhole := congrArg (fun t => before ++ (name ++ t)) hrest
      simp only [hnameSplit] at hwhole
      rw [hwhole]
      simp only [List.append_assoc, List.cons_append]
    exact ⟨⟨⟨before, name, rest, hnameSplit⟩, ⟨_, value.1, value.2, hvalueSplit⟩⟩, hleft.symm, hname,
      .valued (fun d hd => List.mem_takeWhile_imp hd) (fun d hd => List.mem_takeWhile_imp hd) hrest
        (readValue_endsValue fun d hd => Text.not_of_head?_dropWhile hd)⟩
  · have hvalueSplit : before ++ name ++ ([] ++ rest) = raw := by
      rw [List.nil_append, List.append_assoc, hnameSplit]
    exact ⟨⟨⟨before, name, rest, hnameSplit⟩, ⟨_, [], rest, hvalueSplit⟩⟩, hleft.symm, hname,
      .flag rfl rfl hsign⟩

/-- A brace at the head of what is left of a text is that of an expression. -/
theorem exists_braces {before left : Text} (hsplit : before ++ left = raw)
    (hhead : left.head? = some '{') :
    ∃ e : Slice raw, left = e.text ++ e.behind ∧ EndsBraces e.text e.behind := by
  obtain ⟨t, rfl⟩ := List.head?_eq_some_iff.mp hhead
  have htext := readBraces_text 0 none ('{' :: t)
  exact ⟨⟨before, _, _, by rw [htext, hsplit]⟩, htext.symm, readBraces_endsBraces t⟩

/-- **Every text has a walk** from each of its places on. -/
theorem exists_walk {before left : Text} (hsplit : before ++ left = raw) :
    ∃ ps es, Walk raw left ps es := by
  induction hn : utf8Size left using Nat.strongRecOn generalizing before left with
  | ind n ih =>
      subst hn
      cases left with
      | nil => exact ⟨[], [], .done⟩
      | cons c t =>
          by_cases hbrace : c = '{'
          · obtain ⟨e, hleft, he⟩ := exists_braces hsplit (by rw [List.head?_cons, hbrace])
            obtain ⟨ps, es, hwalk⟩ := ih (utf8Size e.behind) (hleft ▸ e.utf8Size_behind_lt he.ne_nil)
              e.split_behind rfl
            exact ⟨ps, e :: es, hleft ▸ .braces he hwalk⟩
          cases hname : isNameChar c with
          | true =>
              obtain ⟨p, hleft, hp, hreads⟩ := exists_place hsplit rfl hname
              obtain ⟨ps, es, hwalk⟩ := ih (utf8Size p.value.behind)
                (hleft ▸ hreads.utf8Size_behind_lt hp) p.value.split_behind rfl
              exact ⟨p :: ps, es, hleft ▸ .pair hp hreads hwalk⟩
          | false =>
              have hpos := Char.utf8Size_pos c
              obtain ⟨ps, es, hwalk⟩ := ih (utf8Size t) (by rw [utf8Size_cons]; omega)
                ((List.append_assoc before [c] t).trans hsplit) rfl
              exact ⟨ps, es, .stray hbrace hname hwalk⟩

/-- What is read of an attribute is the attribute, and the reading goes on behind it. -/
theorem Place.Reads.readPairs_append {p : Place raw} (h : p.Reads)
    (hname : IsName p.name.text p.name.behind) :
    readPairs (p.name.text ++ p.name.behind) = p.pair :: readPairs p.value.behind := by
  cases h with
  | flag hempty hbehind hsign =>
      rw [readPairs_flag hname.ne_nil hname.isNameChar_of_mem hname.longest hsign, pair, hempty,
        hbehind]
  | valued hbefore hblanks hbehind hvalue =>
      rw [hbehind]
      exact readPairs_valued hname.ne_nil hname.isNameChar_of_mem hbefore hblanks
        (fun _ hc => hvalue.not_isAsciiSpace hc) hvalue.readValue_append

/-- **What is read** are the attributes of the walk. -/
theorem Walk.readPairs_eq {left : Text} {ps : List (Place raw)} {es : List (Slice raw)}
    (h : Walk raw left ps es) : readPairs left = ps.map Place.pair := by
  induction h with
  | done => rw [readPairs, List.map_nil]
  | stray hbrace hname _ ih => rw [readPairs_skip hbrace hname, ih]
  | braces he _ ih =>
      have hread := he.readBraces_append
      obtain ⟨t, htext⟩ := List.head?_eq_some_iff.mp he.head?_eq
      rw [htext, List.cons_append] at hread ⊢
      rw [readPairs, if_pos rfl, hread, ih]
  | pair hname hreads _ ih => rw [hreads.readPairs_append hname, ih, List.map_cons]

end Attributes

end PageLint
