import PageLint.Proofs.AttributeGrammar

/-!
# Where attributes stand

`Attributes.read` keeps what attributes say and forgets how they were written. Here the same walk
through the text keeps everything: the text is cut into pieces (`Attributes.pieces`), which are
attributes with the blanks around their equals signs, expressions in braces that stand for no
attribute, and single characters that belong to none.

Nothing is lost (`Attributes.pieces_text`), and the attributes are those of the pieces
(`Attributes.readPairs_eq_filterMap`). So an attribute that is read has a place in the text, and what
stands there is the attribute as it was written.

## Main results

* `Attributes.pieces_text`: the pieces of a text are the text.
* `Attributes.readPairs_eq_filterMap`: what is read is what the pieces say.
* `Attributes.get?_eq_bind_find?`: **a value that is looked up** is that of the first piece with the
  name.
-/

namespace PageLint.Attributes

/-! ### Values lose nothing -/

/-- A quoted value and what follows it are the text. -/
theorem readQuoted_text (quote : Char) (t : Text) :
    (readQuoted quote t).1 ++ (readQuoted quote t).2 = t := by
  induction t with
  | nil => rfl
  | cons c t ih =>
      rw [readQuoted]
      split
      · rfl
      · exact congrArg (c :: ·) ih

/-- One character of an expression in braces: the expression ends with it or goes on. -/
theorem readBraces_cons_or (depth : Nat) (quote : Option Char) (c : Char) (t : Text) :
    readBraces depth quote (c :: t) = ([c], t) ∨ ∃ depth' quote',
      readBraces depth quote (c :: t) =
        (c :: (readBraces depth' quote' t).1, (readBraces depth' quote' t).2) := by
  simp only [readBraces]
  split
  · split <;> exact Or.inr ⟨_, _, rfl⟩
  · split
    · exact Or.inr ⟨_, _, rfl⟩
    · split
      · exact Or.inr ⟨_, _, rfl⟩
      · split
        · split
          · exact Or.inl rfl
          · exact Or.inr ⟨_, _, rfl⟩
        · exact Or.inr ⟨_, _, rfl⟩

/-- An expression in braces and what follows it are the text. -/
theorem readBraces_text (depth : Nat) (quote : Option Char) (t : Text) :
    (readBraces depth quote t).1 ++ (readBraces depth quote t).2 = t := by
  induction t generalizing depth quote with
  | nil => rfl
  | cons c t ih =>
      rcases readBraces_cons_or depth quote c t with hread | ⟨depth', quote', hread⟩
      · rw [hread, List.singleton_append]
      · rw [hread]
        exact congrArg (c :: ·) (ih depth' quote')

/-- An expression in braces has a first character. -/
theorem readBraces_ne_nil (depth : Nat) (quote : Option Char) (c : Char) (t : Text) :
    (readBraces depth quote (c :: t)).1 ≠ [] := by
  rcases readBraces_cons_or depth quote c t with hread | ⟨depth', quote', hread⟩ <;>
    exact hread ▸ List.cons_ne_nil _ _

/-- A value and what follows it are the text. -/
theorem readValue_text (t : Text) : (readValue t).1 ++ (readValue t).2 = t := by
  cases t with
  | nil => rfl
  | cons c t =>
      rw [readValue]
      split
      · exact congrArg (c :: ·) (readQuoted_text c t)
      · split
        · exact readBraces_text 0 none (c :: t)
        · exact List.takeWhile_append_dropWhile

/-! ### Pieces -/

/-- A piece of the text of attributes. -/
inductive Piece where
  /-- A character that belongs to no attribute. -/
  | stray (c : Char)
  /-- An expression in braces where a name would stand. -/
  | spread (expression : Text)
  /-- A name without a value. -/
  | flag (name : Text)
  /-- A name with a value, and the blanks on the two sides of the equals sign. -/
  | valued (name before behind value : Text)
  deriving DecidableEq, Repr

namespace Piece

/-- The piece as it is written. -/
def text : Piece → Text
  | stray c => [c]
  | spread expression => expression
  | flag name => name
  | valued name before behind value => name ++ (before ++ '=' :: (behind ++ value))

/-- What the piece says, if it is an attribute. -/
def pair? : Piece → Option (Text × Text)
  | stray _ | spread _ => none
  | flag name => some (name, [])
  | valued name _ _ value => some (name, value)

/-- Is the piece an attribute with this name? -/
def isNamed (key : String) (p : Piece) : Bool := p.pair?.any (·.1 == key.toList)

end Piece

/-- The first piece of a text that is not empty, and what follows it. -/
def headPiece (c : Char) (t : Text) : Piece × Text :=
  if c = '{' then (.spread (readBraces 0 none (c :: t)).1, (readBraces 0 none (c :: t)).2)
  else if isNameChar c then
    let name := c :: t.takeWhile isNameChar
    let rest := t.dropWhile isNameChar
    match rest.dropWhile isAsciiSpace with
    | '=' :: more =>
      let value := readValue (more.dropWhile isAsciiSpace)
      (.valued name (rest.takeWhile isAsciiSpace) (more.takeWhile isAsciiSpace) value.1, value.2)
    | _ => (.flag name, rest)
  else (.stray c, t)

/-- A piece and what follows it are the text. -/
theorem headPiece_text (c : Char) (t : Text) :
    (headPiece c t).1.text ++ (headPiece c t).2 = c :: t := by
  rw [headPiece]
  split
  · exact readBraces_text 0 none (c :: t)
  · split
    · have hname : c :: t.takeWhile isNameChar ++ t.dropWhile isNameChar = c :: t :=
        congrArg (c :: ·) List.takeWhile_append_dropWhile
      simp only
      split
      · next more hmore =>
        have hbefore : (t.dropWhile isNameChar).takeWhile isAsciiSpace ++ '=' :: more =
            t.dropWhile isNameChar := by
          rw [← hmore, List.takeWhile_append_dropWhile]
        simp only [Piece.text, List.append_assoc, List.cons_append, readValue_text,
          List.takeWhile_append_dropWhile, hbefore]
      · exact hname
    · rfl

/-- A piece has a character. -/
theorem headPiece_ne_nil (c : Char) (t : Text) : (headPiece c t).1.text ≠ [] := by
  rw [headPiece]
  split
  · exact readBraces_ne_nil 0 none c t
  · split
    · simp only
      split <;> exact List.cons_ne_nil _ _
    · exact List.cons_ne_nil _ _

/-- What is left behind a piece is shorter. -/
theorem headPiece_length (c : Char) (t : Text) : (headPiece c t).2.length < (c :: t).length := by
  have hpos := List.length_pos_iff.mpr (headPiece_ne_nil c t)
  have hlength := congrArg List.length (headPiece_text c t)
  rw [List.length_append] at hlength
  omega

/-- The pieces of a text, in order. -/
def pieces : Text → List Piece
  | [] => []
  | c :: t => (headPiece c t).1 :: pieces (headPiece c t).2
termination_by t => t.length
decreasing_by exact headPiece_length c t

/-- **Nothing is lost.** The pieces of a text, one behind the other, are the text. -/
theorem pieces_text (t : Text) : (pieces t).flatMap Piece.text = t := by
  fun_induction pieces t with
  | case1 => rfl
  | case2 c t ih => rw [List.flatMap_cons, ih, headPiece_text]

/-- A piece was read at some place of the text. -/
theorem exists_headPiece_of_mem {t : Text} {p : Piece} (h : p ∈ pieces t) :
    ∃ front c u, t = front ++ c :: u ∧ (headPiece c u).1 = p := by
  fun_induction pieces t with
  | case1 => exact absurd h List.not_mem_nil
  | case2 c t ih =>
      rcases List.mem_cons.mp h with rfl | h
      · exact ⟨[], c, t, rfl, rfl⟩
      · obtain ⟨front, d, u, hrest, hpiece⟩ := ih h
        refine ⟨(headPiece c t).1.text ++ front, d, u, ?_, hpiece⟩
        rw [List.append_assoc, ← hrest, headPiece_text]

/-- What is read at the head of a text is what its first piece says. -/
theorem readPairs_cons (c : Char) (t : Text) :
    readPairs (c :: t) = (headPiece c t).1.pair?.toList ++ readPairs (headPiece c t).2 := by
  rw [readPairs, headPiece]
  split
  · rfl
  · split
    · simp only
      split
      · next more hmore =>
        rw [hmore]
        rfl
      · next hnot =>
        split
        · next more hmore => exact absurd hmore (hnot more)
        · rfl
    · rfl

/-- **What is read is what the pieces say.** -/
theorem readPairs_eq_filterMap (t : Text) : readPairs t = (pieces t).filterMap Piece.pair? := by
  fun_induction pieces t with
  | case1 => rw [readPairs, List.filterMap_nil]
  | case2 c t ih =>
      rw [readPairs_cons, ih, List.filterMap_cons]
      cases (headPiece c t).1.pair? with
      | none => rfl
      | some pair => rfl

/-- **A value that is looked up** is that of the first piece with the name. -/
theorem get?_eq_bind_find? (t : Text) (key : String) :
    (read t).get? key = ((pieces t).find? (·.isNamed key)).bind fun p => p.pair?.map (·.2) := by
  rw [get?, read, readPairs_eq_filterMap, List.find?_filterMap]
  exact Option.map_bind

end PageLint.Attributes
