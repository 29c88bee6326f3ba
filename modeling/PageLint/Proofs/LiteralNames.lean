import PageLint.Proofs.BytePositions
import PageLint.Proofs.PatternMatching
import PageLint.Proofs.TableReferences

/-!
# Names in patterns are literal

The names of columns and tables stand in patterns, and some of their characters have a meaning of their
own there. The patterns are read as sequences that hold the names character by character, so they match
what a search for the name itself finds.

A pattern matches parts of a text (`Pattern.Part`). A sequence matches two parts, one behind the other,
so the parts that a pattern for a name matches are put together from the parts that its pieces match.

## Main results

* `Pattern.matches_literal_iff`: **a name matches itself only**.
* `Query.matchesAt_castPattern_iff`, `Query.cappedCast_isSome_iff`: the pattern for a column matches
  where a cast of the column stands, and that is where it is looked for.
* `Query.occursIn_tablePattern`: the pattern for a table occurs where the table is read.
* `Checker.ofTablesWith_literalNames`: **names do not matter for whether there is a checker**, and
  patterns for columns find the columns.
-/

namespace PageLint

namespace Pattern

/-! ### Parts of a text -/

/-- The part of the text between two places. -/
def Part (t : Text) (i j : Nat) (part : Text) : Prop := t.drop i = part ++ t.drop j ∧ j = i + part.length

variable {t : Text} {i j k : Nat}

/-- The empty part is between a place and itself. -/
theorem part_nil : Part t i j [] ↔ j = i := by
  constructor
  · rintro ⟨-, h⟩
    exact h
  · rintro rfl
    exact ⟨rfl, rfl⟩

/-- What is ahead of a place begins with a part. -/
theorem exists_part_iff {part : Text} : (∃ j, Part t i j part) ↔ part <+: t.drop i := by
  constructor
  · rintro ⟨j, h, -⟩
    exact ⟨_, h.symm⟩
  · rintro ⟨rest, h⟩
    refine ⟨i + part.length, ?_, rfl⟩
    rw [← List.drop_drop, ← h, List.drop_left]

/-- A part is cut in two. -/
theorem part_append_iff {a b : Text} : Part t i k (a ++ b) ↔ ∃ j, Part t i j a ∧ Part t j k b := by
  constructor
  · rintro ⟨h, rfl⟩
    have ha : t.drop i = a ++ t.drop (i + a.length) := by
      rw [← List.drop_drop, h, List.append_assoc, List.drop_left]
    refine ⟨i + a.length, ⟨ha, rfl⟩, ?_, ?_⟩
    · rw [ha, List.append_assoc] at h
      exact List.append_cancel_left h
    · rw [List.length_append, Nat.add_assoc]
  · rintro ⟨j, ⟨ha, rfl⟩, hb, rfl⟩
    refine ⟨?_, ?_⟩
    · rw [ha, hb, List.append_assoc]
    · rw [List.length_append, Nat.add_assoc]

/-- The parts behind a first part of the text are the beginnings of the rest. -/
theorem part_length_iff {before rest part : Text} :
    Part (before ++ rest) before.length j part ↔
      ∃ rest', rest = part ++ rest' ∧ j = (before ++ part).length := by
  rw [Part, List.drop_left, List.length_append]
  constructor
  · rintro ⟨hrest, hj⟩
    exact ⟨_, hrest, hj⟩
  · rintro ⟨rest', rfl, rfl⟩
    refine ⟨?_, rfl⟩
    rw [← List.length_append, ← List.append_assoc, List.drop_left]

/-! ### What patterns match -/

/-- One character of a set. -/
theorem matches_char_iff {set : CharSet} :
    Matches t (.char set) i j ↔ ∃ c, set.holds c = true ∧ Part t i j [c] := by
  rw [Matches]
  constructor
  · rintro ⟨⟨c, hc, hset⟩, rfl⟩
    refine ⟨c, hset, ?_, rfl⟩
    obtain ⟨hlt, rfl⟩ := List.getElem?_eq_some_iff.mp hc
    exact List.drop_eq_getElem_cons hlt
  · rintro ⟨c, hset, h, rfl⟩
    refine ⟨⟨c, ?_, hset⟩, rfl⟩
    rw [← List.head?_drop, h, List.singleton_append, List.head?_cons]

/-- The set of one character holds that character only. -/
theorem holds_single {c d : Char} : (CharSet.single c).holds d = true ↔ d = c := by
  have hrange : (CharSet.single c).holds d = true ↔ d.toNat = c.toNat := by
    simp only [CharSet.single, CharSet.holds, CharRanges.holds, List.any_cons, List.any_nil,
      Bool.or_false, Bool.and_eq_true, decide_eq_true_eq]
    omega
  rw [hrange]
  exact ⟨Char.toNat_inj.mp, congrArg _⟩

/-- **A name matches itself only**, whatever its characters are. -/
theorem matches_literal_iff {name : Text} {p : Pattern} :
    Matches t (literal name p) i k ↔ ∃ j, Part t i j name ∧ Matches t p j k := by
  induction name generalizing i with
  | nil =>
      simp only [part_nil, exists_eq_left]
      rfl
  | cons c name ih =>
      have hseq : Matches t (literal (c :: name) p) i k ↔
          ∃ j, Matches t (.char (.single c)) i j ∧ Matches t (literal name p) j k := Iff.rfl
      rw [hseq]
      constructor
      · rintro ⟨j, hchar, hname⟩
        obtain ⟨d, hd, hpart⟩ := matches_char_iff.mp hchar
        obtain rfl := holds_single.mp hd
        obtain ⟨j', hpart', hp⟩ := ih.mp hname
        exact ⟨j', part_append_iff.mpr ⟨j, hpart, hpart'⟩, hp⟩
      · rintro ⟨j', hpart, hp⟩
        obtain ⟨j, hchar, hname⟩ := (part_append_iff (a := [c])).mp hpart
        exact ⟨j, matches_char_iff.mpr ⟨c, holds_single.mpr rfl, hchar⟩, ih.mpr ⟨j', hname, hp⟩⟩

/-- A name alone. -/
theorem matches_literal_empty_iff {name : Text} :
    Matches t (literal name .empty) i k ↔ Part t i k name := by
  rw [matches_literal_iff]
  constructor
  · rintro ⟨j, hpart, rfl⟩
    exact hpart
  · intro hpart
    exact ⟨k, hpart, rfl⟩

/-- Some characters of a set, one behind the other. -/
theorem chain_char_iff {set : CharSet} {n : Nat} :
    Chain (Matches t (.char set)) n i k ↔
      ∃ part : Text, part.length = n ∧ (∀ c ∈ part, set.holds c = true) ∧ Part t i k part := by
  induction n generalizing i with
  | zero =>
      constructor
      · intro h
        exact ⟨[], rfl, fun c hc => absurd hc List.not_mem_nil, part_nil.mpr h⟩
      · rintro ⟨part, hlength, -, hpart⟩
        obtain rfl := List.length_eq_zero_iff.mp hlength
        exact part_nil.mp hpart
  | succ n ih =>
      constructor
      · rintro ⟨j, hchar, hrest⟩
        obtain ⟨c, hc, hfirst⟩ := matches_char_iff.mp hchar
        obtain ⟨part, rfl, hpart, hsecond⟩ := ih.mp hrest
        exact ⟨c :: part, rfl, List.forall_mem_cons.mpr ⟨hc, hpart⟩,
          part_append_iff.mpr ⟨j, hfirst, hsecond⟩⟩
      · rintro ⟨part, hlength, hset, hpart⟩
        cases part with
        | nil => cases hlength
        | cons c part =>
            obtain ⟨hc, hset'⟩ := List.forall_mem_cons.mp hset
            obtain ⟨j, hfirst, hsecond⟩ := (part_append_iff (a := [c])).mp hpart
            exact ⟨j, matches_char_iff.mpr ⟨c, hc, hfirst⟩,
              ih.mpr ⟨part, Nat.succ.inj hlength, hset', hsecond⟩⟩

/-- One or more characters of a set. -/
theorem matches_some_iff {set : CharSet} :
    Matches t (.times 1 none (.char set)) i k ↔
      ∃ part : Text, part ≠ [] ∧ (∀ c ∈ part, set.holds c = true) ∧ Part t i k part := by
  rw [Matches]
  constructor
  · rintro ⟨n, hn, -, hchain⟩
    obtain ⟨part, rfl, hset, hpart⟩ := chain_char_iff.mp hchain
    exact ⟨part, List.length_pos_iff.mp hn, hset, hpart⟩
  · rintro ⟨part, hne, hset, hpart⟩
    refine ⟨part.length, List.length_pos_iff.mpr hne, ?_, chain_char_iff.mpr ⟨part, rfl, hset, hpart⟩⟩
    intro m hm
    cases hm

/-- A pattern or nothing. -/
theorem matches_optional_iff {p : Pattern} :
    Matches t (.times 0 (some 1) p) i k ↔ k = i ∨ Matches t p i k := by
  rw [Matches]
  constructor
  · rintro ⟨n, -, hmax, hchain⟩
    have hn : n - 0 ≤ 1 - 0 := hmax 1 rfl
    cases n with
    | zero => exact Or.inl hchain
    | succ n =>
        obtain rfl : n = 0 := by omega
        obtain ⟨j, hp, rfl⟩ := hchain
        exact Or.inr hp
  · rintro (rfl | hp)
    · exact ⟨0, Nat.le_refl 0, fun m _ => Nat.zero_le _, rfl⟩
    · refine ⟨1, Nat.zero_le 1, ?_, k, hp, rfl⟩
      rintro m hm
      obtain rfl := Option.some.inj hm
      exact Nat.le_refl _

/-! ### Casts -/

/-- Is the text nothing, or the name of a table with a point behind it? -/
def IsQualifier (name : Text) : Prop :=
  name = [] ∨ ∃ word : Text, word ≠ [] ∧ (∀ c ∈ word, isWordChar c = true) ∧ name = word ++ ['.']

/-- The optional name of a table matches such a text. -/
theorem matches_qualifier_iff :
    Matches t (.times 0 (some 1) qualifier) i k ↔ ∃ name, IsQualifier name ∧ Part t i k name := by
  have hname : Matches t qualifier i k ↔ ∃ word : Text, word ≠ [] ∧
      (∀ c ∈ word, isWordChar c = true) ∧ Part t i k (word ++ ['.']) := by
    constructor
    · rintro ⟨j, hsome, hpoint⟩
      obtain ⟨word, hne, hword, hfirst⟩ := matches_some_iff.mp hsome
      have hsecond : Part t j k ['.'] := matches_literal_empty_iff.mp hpoint
      exact ⟨word, hne, hword, part_append_iff.mpr ⟨j, hfirst, hsecond⟩⟩
    · rintro ⟨word, hne, hword, hpart⟩
      obtain ⟨j, hfirst, hsecond⟩ := part_append_iff.mp hpart
      exact ⟨j, matches_some_iff.mpr ⟨word, hne, hword, hfirst⟩,
        matches_literal_empty_iff.mpr hsecond⟩
  rw [matches_optional_iff, hname]
  constructor
  · rintro (rfl | ⟨word, hne, hword, hpart⟩)
    · exact ⟨[], Or.inl rfl, part_nil.mpr rfl⟩
    · exact ⟨_, Or.inr ⟨word, hne, hword, rfl⟩, hpart⟩
  · rintro ⟨name, rfl | ⟨word, hne, hword, rfl⟩, hpart⟩
    · exact Or.inl (part_nil.mp hpart)
    · exact Or.inr ⟨word, hne, hword, hpart⟩

/-- **What the pattern for a column matches**: a cast of the column, which stands in it as it is. -/
theorem matches_castPattern_iff {column : String} :
    Matches t (castPattern column) i k ↔ ∃ name, IsQualifier name ∧
      Part t i k ("TRY_CAST(".toList ++ (name ++ quotedColumn column)) := by
  rw [castPattern, matches_literal_iff]
  constructor
  · rintro ⟨j, hhead, j', hname, hquoted⟩
    obtain ⟨name, hqualifier, hname⟩ := matches_qualifier_iff.mp hname
    refine ⟨name, hqualifier, part_append_iff.mpr ⟨j, hhead, part_append_iff.mpr ⟨j', hname, ?_⟩⟩⟩
    exact matches_literal_empty_iff.mp hquoted
  · rintro ⟨name, hqualifier, hpart⟩
    obtain ⟨j, hhead, hrest⟩ := part_append_iff.mp hpart
    obtain ⟨j', hname, hquoted⟩ := part_append_iff.mp hrest
    exact ⟨j, hhead, j', matches_qualifier_iff.mpr ⟨name, hqualifier, hname⟩,
      matches_literal_empty_iff.mpr hquoted⟩

/-! ### Positions in bytes -/

/-- Does the pattern match the text from the byte on? -/
def matchesAtByte (p : Pattern) (t : Text) (i : Nat) : Bool :=
  match Text.cut? i t with
  | some (before, _) => p.matchesAt t before.length
  | none => false

/-- A match begins between two characters. -/
theorem matchesAtByte_iff {p : Pattern} {t : Text} {i : Nat} :
    p.matchesAtByte t i = true ↔
      ∃ before ahead, t = before ++ ahead ∧ Text.utf8Size before = i ∧
        p.matchesAt t before.length = true := by
  rw [matchesAtByte]
  constructor
  · intro h
    split at h
    · next before ahead hcut =>
      exact ⟨before, ahead, Text.eq_append_of_cut? hcut, Text.utf8Size_of_cut? hcut, h⟩
    · cases h
  · rintro ⟨before, ahead, rfl, rfl, h⟩
    rw [Text.cut?_utf8Size]
    exact h

/-- A pattern occurs in a text if it matches from some byte on. -/
theorem occursIn_iff_exists_byte {p : Pattern} {t : Text} :
    p.occursIn t = true ↔ ∃ i, p.matchesAtByte t i = true := by
  rw [occursIn_iff]
  simp only [matchesAtByte_iff]
  constructor
  · rintro ⟨i, hi, h⟩
    refine ⟨_, t.take i, t.drop i, (List.take_append_drop i t).symm, rfl, ?_⟩
    rw [List.length_take_of_le hi]
    exact (matchesAt_iff hi).mpr h
  · rintro ⟨_, before, ahead, rfl, -, h⟩
    have hle : before.length ≤ (before ++ ahead).length := by
      rw [List.length_append]
      exact Nat.le_add_right _ _
    exact ⟨before.length, hle, (matchesAt_iff hle).mp h⟩

end Pattern

/-- Does the text begin with a cast of the column to a number? -/
def Query.Casts (column : String) (t : Text) : Prop :=
  ∃ name, Pattern.IsQualifier name ∧
    "TRY_CAST(".toList ++ (name ++ Pattern.quotedColumn column) <+: t

namespace Query

/-- The pattern for a column matches from a place on exactly if a cast of the column is there. -/
theorem matchesAt_castPattern_iff {column : String} {before t : Text} :
    (Pattern.castPattern column).matchesAt (before ++ t) before.length = true ↔ Casts column t := by
  have hle : before.length ≤ (before ++ t).length := by
    rw [List.length_append]
    exact Nat.le_add_right _ _
  rw [Pattern.matchesAt_iff hle, Casts]
  simp only [Pattern.matches_castPattern_iff]
  rw [exists_comm]
  simp only [exists_and_left, Pattern.exists_part_iff, List.drop_left]

/-- The name of a table and the point behind it are passed over. -/
def unqualified (t : Text) : Option Text := do
  let (_, t) ← Text.readWord? t
  Text.after? ['.'] t

/-- What is passed over as the name of a table is a word with a point behind it. -/
theorem unqualified_eq_some_iff {t rest : Text} :
    unqualified t = some rest ↔
      ∃ word : Text, word ≠ [] ∧ (∀ c ∈ word, isWordChar c = true) ∧ t = word ++ ('.' :: rest) := by
  have hpoint : isWordChar '.' = false := by decide +kernel
  simp only [unqualified, bind, Option.bind_eq_some_iff, Prod.exists, Text.readWord?_eq_some_iff,
    Text.after?_eq_some_iff]
  constructor
  · rintro ⟨word, _, ⟨hne, hword, rfl, -⟩, rfl⟩
    exact ⟨word, hne, hword, rfl⟩
  · rintro ⟨word, hne, hword, rfl⟩
    refine ⟨word, _, ⟨hne, hword, rfl, ?_⟩, rfl⟩
    intro c hc
    obtain rfl : '.' = c := Option.some.inj hc
    exact hpoint

/-- A quoted column begins with no name of a table. -/
theorem unqualified_quotedColumn (column : String) (t : Text) :
    unqualified (Pattern.quotedColumn column ++ t) = none := by
  cases hrest : unqualified (Pattern.quotedColumn column ++ t) with
  | none => rfl
  | some rest =>
      obtain ⟨word, hne, hword, hsplit⟩ := unqualified_eq_some_iff.mp hrest
      cases word with
      | nil => exact absurd rfl hne
      | cons c word =>
          obtain rfl : '"' = c := (List.cons.inj hsplit).1
          have hquote : isWordChar '"' = true := hword '"' List.mem_cons_self
          exact absurd hquote (by decide +kernel)

/-- **What is read as a cast of a column**: the part of the text that the pattern for the column
matches. -/
theorem cappedCast_eq_some_iff {column : String} {last : Option Char} {t rest : Text} :
    cappedCast column last t = some ((), rest) ↔ ∃ name, Pattern.IsQualifier name ∧
      t = "TRY_CAST(".toList ++ (name ++ Pattern.quotedColumn column) ++ rest := by
  have hform : cappedCast column last t = (Text.after? "TRY_CAST(".toList t).bind fun t =>
      (Text.after? (Pattern.quotedColumn column) ((unqualified t).getD t)).bind fun t =>
        some ((), t) := rfl
  simp only [hform, Option.bind_eq_some_iff, Text.after?_eq_some_iff, Option.some.injEq, Prod.mk.injEq,
    true_and, exists_eq_right]
  constructor
  · rintro ⟨t, rfl, hquoted⟩
    cases hname : unqualified t with
    | none =>
        rw [hname, Option.getD_none] at hquoted
        refine ⟨[], Or.inl rfl, ?_⟩
        rw [hquoted, List.nil_append, List.append_assoc]
    | some t' =>
        rw [hname, Option.getD_some] at hquoted
        obtain ⟨word, hne, hword, rfl⟩ := unqualified_eq_some_iff.mp hname
        refine ⟨word ++ ['.'], Or.inr ⟨word, hne, hword, rfl⟩, ?_⟩
        rw [hquoted]
        simp only [List.append_assoc, List.cons_append, List.nil_append]
  · rintro ⟨name, hqualifier, rfl⟩
    refine ⟨name ++ (Pattern.quotedColumn column ++ rest), ?_, ?_⟩
    · simp only [List.append_assoc]
    · rcases hqualifier with rfl | ⟨word, hne, hword, rfl⟩
      · rw [List.nil_append, unqualified_quotedColumn, Option.getD_none]
      · have hname : unqualified (word ++ ['.'] ++ (Pattern.quotedColumn column ++ rest)) =
            some (Pattern.quotedColumn column ++ rest) := by
          refine unqualified_eq_some_iff.mpr ⟨word, hne, hword, ?_⟩
          rw [List.append_assoc, List.singleton_append]
        rw [hname, Option.getD_some]

/-- **Where a cast of a column is found**: the fragment that SQL is searched for is the one that the
pattern for the column matches. -/
theorem cappedCast_isSome_iff {column : String} {last : Option Char} {t : Text} :
    (cappedCast column last t).isSome = true ↔ Casts column t := by
  rw [Option.isSome_iff_exists, Casts]
  constructor
  · rintro ⟨⟨⟨⟩, rest⟩, hread⟩
    obtain ⟨name, hqualifier, rfl⟩ := cappedCast_eq_some_iff.mp hread
    exact ⟨name, hqualifier, rest, rfl⟩
  · rintro ⟨name, hqualifier, rest, rfl⟩
    exact ⟨((), rest), cappedCast_eq_some_iff.mpr ⟨name, hqualifier, rfl⟩⟩

/-! ### References to tables -/

/-- The start or the end of a word, between two parts of a text. -/
theorem matches_wordBoundary_iff {before rest : Text} {j : Nat} :
    Pattern.Matches (before ++ rest) (.place (.wordBoundary .word)) before.length j ↔
      Text.atWordBoundary before.getLast? rest = true ∧ j = before.length := by
  have hbefore : (if before.length = 0 then none else (before ++ rest)[before.length - 1]?) =
      before.getLast? := by
    cases before with
    | nil => rfl
    | cons c before =>
        have hne : (c :: before).length ≠ 0 := Nat.succ_ne_zero _
        rw [if_neg hne, List.getLast?_eq_getElem?]
        exact List.getElem?_append_left (by simp)
  have hrest : (before ++ rest)[before.length]? = rest.head? := by
    rw [List.getElem?_append_right (Nat.le_refl _), Nat.sub_self, List.head?_eq_getElem?]
  rw [Pattern.Matches, hbefore, hrest]
  exact Iff.rfl

/-- Before a keyword, a word begins where the character before is none of a word. -/
theorem atWordBoundary_keyword_iff {keyword : Text} (hkeyword : IsKeyword keyword)
    (last : Option Char) (rest : Text) :
    Text.atWordBoundary last (keyword ++ rest) = true ↔ last.any isWordChar = false := by
  have hhead : (keyword ++ rest).head?.any isWordChar = true := by
    rcases hkeyword with rfl | rfl
    · exact (by decide +kernel : isWordChar 'F' = true)
    · exact (by decide +kernel : isWordChar 'J' = true)
  rw [Text.atWordBoundary, hhead]
  cases last.any isWordChar with
  | true => simp
  | false => simp

/-- Behind blanks and a name, whether a word ends is up to the name. -/
theorem atWordBoundary_name {before blanks name : Text} (hne : blanks ≠ [])
    (hblanks : ∀ c ∈ blanks, isSpace c = true) (rest : Text) :
    Text.atWordBoundary (before ++ (blanks ++ name)).getLast? rest =
      Text.atWordBoundary name.getLast? rest := by
  cases hname : name.getLast? with
  | some c => rw [List.getLast?_append, List.getLast?_append, hname, Option.some_or, Option.some_or]
  | none =>
      obtain rfl := List.getLast?_eq_none_iff.mp hname
      obtain ⟨c, hc⟩ : ∃ c, blanks.getLast? = some c :=
        Option.isSome_iff_exists.mp (List.getLast?_isSome.mpr hne)
      have hword : isWordChar c = false := by
        cases hword : isWordChar c with
        | false => rfl
        | true =>
            have hspace := hblanks c (List.mem_of_getLast? hc)
            rw [not_isSpace_of_isWordChar hword] at hspace
            cases hspace
      rw [List.append_nil, List.getLast?_append, hc, Option.some_or, Text.atWordBoundary,
        Text.atWordBoundary, Option.any_some, hword]
      rfl

/-- The words before the name of a table are matched. -/
theorem matches_readingWord_iff {sql : Text} {i j : Nat} :
    Pattern.Matches sql Pattern.readingWord i j ↔
      ∃ keyword, IsKeyword keyword ∧ Pattern.Part sql i j keyword := by
  have halt : Pattern.Matches sql Pattern.readingWord i j ↔
      Pattern.Part sql i j "FROM".toList ∨ Pattern.Part sql i j "JOIN".toList :=
    or_congr Pattern.matches_literal_empty_iff Pattern.matches_literal_empty_iff
  rw [halt]
  constructor
  · rintro (h | h)
    · exact ⟨_, Or.inl rfl, h⟩
    · exact ⟨_, Or.inr rfl, h⟩
  · rintro ⟨keyword, rfl | rfl, h⟩
    · exact Or.inl h
    · exact Or.inr h

/-- The pattern for a table matches from a place on exactly if a reference to the table is there. -/
theorem exists_matches_tablePattern_iff {table : String} {before t : Text} :
    (∃ k, Pattern.Matches (before ++ t) (Pattern.tablePattern table) before.length k) ↔
      (tableReference table before.getLast? t).isSome = true := by
  rw [tableReference_isSome_iff]
  constructor
  · rintro ⟨k, j, hplace, j₁, hword, j₂, hsome, hliteral⟩
    obtain ⟨hstart, rfl⟩ := matches_wordBoundary_iff.mp hplace
    obtain ⟨keyword, hkeyword, hpart₁⟩ := matches_readingWord_iff.mp hword
    obtain ⟨blanks, hne, hblanks, hpart₂⟩ := Pattern.matches_some_iff.mp hsome
    obtain ⟨j₃, hpart₃, j₄, hplace', -⟩ := Pattern.matches_literal_iff.mp hliteral
    have hpart : Pattern.Part (before ++ t) before.length j₃ (keyword ++ (blanks ++ table.toList)) :=
      Pattern.part_append_iff.mpr ⟨j₁, hpart₁, Pattern.part_append_iff.mpr ⟨j₂, hpart₂, hpart₃⟩⟩
    obtain ⟨rest, rfl, rfl⟩ := Pattern.part_length_iff.mp hpart
    rw [← List.append_assoc before] at hplace'
    obtain ⟨hend, -⟩ := matches_wordBoundary_iff.mp hplace'
    rw [← List.append_assoc before, atWordBoundary_name hne hblanks] at hend
    rw [List.append_assoc keyword] at hstart ⊢
    refine ⟨(atWordBoundary_keyword_iff hkeyword _ _).mp hstart, keyword, blanks, rest, ?_, hkeyword,
      hne, hblanks, hend⟩
    rw [List.append_assoc]
  · rintro ⟨hlast, keyword, blanks, rest, ht, hkeyword, hne, hblanks, hend⟩
    have hstart : Text.atWordBoundary before.getLast? t = true := by
      rw [ht]
      exact (atWordBoundary_keyword_iff hkeyword _ _).mpr hlast
    have ht' : t = (keyword ++ (blanks ++ table.toList)) ++ rest := by
      simp only [ht, List.append_assoc]
    obtain ⟨j₁, hpart₁, hrest⟩ :=
      Pattern.part_append_iff.mp (Pattern.part_length_iff.mpr ⟨rest, ht', rfl⟩)
    obtain ⟨j₂, hpart₂, hpart₃⟩ := Pattern.part_append_iff.mp hrest
    let stop := (before ++ (keyword ++ (blanks ++ table.toList))).length
    have hplace : Pattern.Matches (before ++ t) (.place (.wordBoundary .word)) stop stop := by
      rw [ht', ← List.append_assoc before]
      refine matches_wordBoundary_iff.mpr ⟨?_, rfl⟩
      rw [← List.append_assoc before, atWordBoundary_name hne hblanks]
      exact hend
    exact ⟨stop, before.length, matches_wordBoundary_iff.mpr ⟨hstart, rfl⟩, j₁,
      matches_readingWord_iff.mpr ⟨keyword, hkeyword, hpart₁⟩, j₂,
      Pattern.matches_some_iff.mpr ⟨blanks, hne, hblanks, hpart₂⟩,
      Pattern.matches_literal_iff.mpr ⟨stop, hpart₃, stop, hplace, rfl⟩⟩

/-- **What the pattern for a table finds**: a reference to the table, whose name stands in it as it
is. -/
theorem occursIn_tablePattern (sql : Text) (table : String) :
    (Pattern.tablePattern table).occursIn sql = readsTable sql table := by
  rw [Bool.eq_iff_iff, Pattern.occursIn_iff, readsTable, Text.any_eq_true_iff]
  simp only [← exists_matches_tablePattern_iff]
  constructor
  · rintro ⟨i, hi, h⟩
    have hlength : (sql.take i).length = i := List.length_take_of_le hi
    refine ⟨sql.take i, sql.drop i, (List.take_append_drop i sql).symm, ?_⟩
    rw [List.take_append_drop, hlength]
    exact h
  · rintro ⟨before, t, rfl, h⟩
    exact ⟨before.length, by simp, h⟩

end Query

namespace Checker

/-- **Configured names are literal.** The patterns of rule tables are read in any way that sets no
bound on the size of the patterns for names. Then there is no checker exactly if the pattern of a marker
cannot be read, and the error names the rule of the first such marker, whatever the names of columns and
tables are. The pattern for a capped column matches SQL from a byte on exactly if a cast of the column
stands there, character by character, and this is what SQL is searched for. -/
theorem ofTablesWith_literalNames (read : Text → Option Pattern) (tables : RuleTables)
    (hread : tables.ReadsNames read) :
    (∀ e, ofTablesWith read tables = .error e ↔
      ∃ before m after, tables.markers = before ++ m :: after ∧
        (∀ m' ∈ before, m'.Compiles read) ∧ ¬m.Compiles read ∧ e = ⟨m.rule⟩) ∧
    ∀ column ∈ tables.cappedColumns,
      (∃ p, read (Pattern.castText column) = some p ∧ ∀ (sql : Text) (i : Nat),
        p.matchesAtByte sql i = true ↔
          ∃ before t, sql = before ++ t ∧ Text.utf8Size before = i ∧ Query.Casts column t) ∧
      ∀ last t, (Query.cappedCast column last t).isSome = true ↔ Query.Casts column t := by
  refine ⟨fun e => ofTablesWith_eq_error_iff hread, ?_⟩
  intro column hcolumn
  refine ⟨⟨Pattern.castPattern column, ?_, ?_⟩, fun last t => Query.cappedCast_isSome_iff⟩
  · rw [hread.columns column hcolumn, Pattern.parse?_castText]
  · intro sql i
    rw [Pattern.matchesAtByte_iff]
    constructor
    · rintro ⟨before, t, rfl, hi, h⟩
      exact ⟨before, t, rfl, hi, Query.matchesAt_castPattern_iff.mp h⟩
    · rintro ⟨before, t, rfl, hi, h⟩
      exact ⟨before, t, rfl, hi, Query.matchesAt_castPattern_iff.mpr h⟩

/-- Tables with names full of characters that have a meaning of their own, and a marker whose pattern
cannot be read: the error is about the marker, and the column is found. -/
theorem ofTablesWith_literalNames_escaped :
    let tables : RuleTables :=
      { RuleTables.builtin with
        cappedColumns := ["Load (%) [a-z]+", ""], primaryTables := ["trips.*", ""], gaps := []
        markers := [⟨"GAP_LINE", "2024", none, [], none, ""⟩,
          ⟨"PATTERN_LINE", "2024", none, [], some "(unclosed", ""⟩] }
    let sql := "SELECT é, TRY_CAST(t.\"Load (%) [a-z]+\" AS DOUBLE)".toList
    tables.ReadsNames Pattern.ofText? ∧ ofTables tables = .error ⟨"PATTERN_LINE"⟩ ∧
      ∃ p, Pattern.ofText? (Pattern.castText "Load (%) [a-z]+") = some p ∧
        p.matchesAtByte sql 11 = true := by
  intro tables sql
  have hread : tables.ReadsNames Pattern.ofText? :=
    RuleTables.readsNames_ofText? (by decide +kernel) (by decide +kernel)
  obtain ⟨herror, hcolumns⟩ := ofTablesWith_literalNames Pattern.ofText? tables hread
  obtain ⟨⟨p, hp, hmatches⟩, -⟩ := hcolumns "Load (%) [a-z]+" List.mem_cons_self
  refine ⟨hread, (herror _).mpr ?_, p, hp, (hmatches sql 11).mpr ?_⟩
  · refine ⟨[_], _, [], rfl, List.forall_mem_singleton.mpr ?_, ?_, rfl⟩
    · intro t ht
      cases ht
    · intro hcompiles
      have hnone : (Pattern.ofText? "(unclosed".toList).isSome = false := by decide +kernel
      have hsome := hcompiles "(unclosed" rfl
      rw [hnone] at hsome
      cases hsome
  · refine ⟨"SELECT é, ".toList, "TRY_CAST(t.\"Load (%) [a-z]+\" AS DOUBLE)".toList, ?_, ?_,
      ['t', '.'], Or.inr ⟨['t'], List.cons_ne_nil _ _, List.forall_mem_singleton.mpr ?_, rfl⟩, ?_⟩
    · decide +kernel
    · decide +kernel
    · decide +kernel
    · decide +kernel

end Checker

end PageLint
