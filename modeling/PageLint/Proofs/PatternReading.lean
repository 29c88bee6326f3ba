import PageLint.Pattern.Names

/-!
# Reading the patterns for names

The patterns for names of columns and tables are read without flags and without named groups, so what is
ahead is all that changes while they are read (`Pattern.cursorAt`). Reading goes step by step: each step
reads one part of a sequence and takes one of the fuel. An escaped name is read as its characters, with
as many steps as it has characters (`Pattern.readSequence_escape`), so the fuel for a whole pattern is
enough.

## Main results

* `Pattern.readSequence_escape`: **a name is read as the sequence of its characters**.
* `Pattern.parse?_castText`, `Pattern.parse?_tableText`: the patterns for all columns and tables are
  read, and what they are read as.
-/

namespace PageLint.Pattern

/-! ### The cursor -/

/-- Reading without flags and groups, with `t` ahead. -/
def cursorAt (t : Text) : Cursor := { rest := t }

section

variable {α β : Type}

/-- Two readings, one behind the other: the second is at the cursor that the first leaves. -/
@[simp] theorem bind_apply (x : Read α) (f : α → Read β) (s : Cursor) :
    (x >>= f) s = (x s).bind fun p => f p.1 p.2 := rfl

/-- A reading without an effect leaves the cursor where it is. -/
@[simp] theorem pure_apply (a : α) (s : Cursor) : (pure a : Read α) s = some (a, s) := rfl

/-- A change of what is read leaves the cursor where the reading does. -/
@[simp] theorem map_apply (f : α → β) (x : Read α) (s : Cursor) :
    (f <$> x) s = (x s).map fun p => (f p.1, p.2) := by
  rw [← bind_pure_comp, bind_apply, Option.map_eq_bind]
  rfl

/-- The next character is looked at and not passed over. -/
@[simp] theorem peek_cursorAt (t : Text) : peek (cursorAt t) = some (t.head?, cursorAt t) := rfl

/-- No flags are set. -/
@[simp] theorem flags_cursorAt (t : Text) : flags (cursorAt t) = some ({}, cursorAt t) := rfl

/-- The text ahead is looked at and not passed over. -/
@[simp] theorem ahead_cursorAt (t : Text) : ahead (cursorAt t) = some (t, cursorAt t) := rfl

/-- The cursor is put where it is told to go. -/
@[simp] theorem goTo_cursorAt (t u : Text) : goTo u (cursorAt t) = some ((), cursorAt u) := rfl

/-- The next character is read where there is one. -/
@[simp] theorem current_cursorAt (c : Char) (t : Text) :
    current (cursorAt (c :: t)) = some (c, cursorAt (c :: t)) := rfl

/-- The next character is passed over. -/
@[simp] theorem bump_cursorAt (c : Char) (t : Text) : bump (cursorAt (c :: t)) = some ((), cursorAt t) := rfl

/-- No blanks are passed over where no flag says so. -/
@[simp] theorem skipBlanks_cursorAt (t : Text) : skipBlanks (cursorAt t) = some ((), cursorAt t) := rfl

/-- A change of the cursor is made. -/
@[simp] theorem modify_apply (f : Cursor → Cursor) (s : Cursor) :
    (modify f : Read Unit) s = some ((), f s) := rfl

/-- Nothing is passed over where no question mark is ahead. -/
theorem skipLazy_cursorAt {t : Text} (ht : t.head? ≠ some '?') :
    skipLazy (cursorAt t) = some ((), cursorAt t) := by
  have hafter : Text.after? "?".toList t = none := by
    cases t with
    | nil => rfl
    | cons c t =>
        have hc : '?' ≠ c := fun h => ht (by rw [h, List.head?_cons])
        exact if_neg hc
  rw [skipLazy, bind_apply, bumpIf, bind_apply, ahead_cursorAt, Option.bind_some]
  dsimp only
  rw [hafter]
  rfl

/-- What does not nest too deeply is accepted. -/
theorem nested_apply {p : Pattern} {depth : Nat} (h : depth < maxDepth) (s : Cursor) :
    nested p depth s = some ({ pattern := p, depth := depth + 1 }, s) := by
  rw [nested, if_pos (Nat.succ_le_of_lt h)]
  rfl

end

/-! ### Single characters -/

/-- A part that is one character. -/
def charNode (c : Char) : Node := { pattern := .char (.single c), depth := 0 }

/-- The characters with a meaning of their own, one by one. -/
theorem isMeta_iff {c : Char} : isMeta c = true ↔
    c = '\\' ∨ c = '.' ∨ c = '+' ∨ c = '*' ∨ c = '?' ∨ c = '(' ∨ c = ')' ∨ c = '|' ∨ c = '[' ∨ c = ']' ∨
      c = '{' ∨ c = '}' ∨ c = '^' ∨ c = '$' ∨ c = '#' ∨ c = '&' ∨ c = '-' ∨ c = '~' := by
  simp [isMeta]

variable {fuel : Nat} {before : List Node} {c : Char} {t : Text}

/-- A character without a meaning of its own stands for itself. -/
theorem readSequence_plain (hc : isMeta c = false) :
    readSequence (fuel + 1) before (cursorAt (c :: t)) =
      readSequence fuel (charNode c :: before) (cursorAt t) := by
  rw [← Bool.not_eq_true, isMeta_iff] at hc
  simp only [not_or] at hc
  have hprimitive : readPrimitive (cursorAt (c :: t)) = some (.char (.single c), cursorAt t) := by
    simp [readPrimitive, itemPattern, hc]
  rw [readSequence]
  simp [hprimitive, hc]
  rfl

/-- A part that begins with a backslash is read as a single part. -/
theorem readSequence_backslash {p : Pattern} {u : Text}
    (h : readPrimitive (cursorAt ('\\' :: t)) = some (p, cursorAt u)) :
    readSequence (fuel + 1) before (cursorAt ('\\' :: t)) =
      readSequence fuel ({ pattern := p, depth := 0 } :: before) (cursorAt u) := by
  rw [readSequence]
  simp [h]

/-- A character with a meaning of its own stands for itself behind a backslash. -/
theorem readSequence_escaped (hc : isMeta c = true) :
    readSequence (fuel + 1) before (cursorAt ('\\' :: c :: t)) =
      readSequence fuel (charNode c :: before) (cursorAt t) := by
  have hescape : readEscape (cursorAt ('\\' :: c :: t)) = some (.literal c false, cursorAt t) := by
    rcases isMeta_iff.mp hc with rfl | rfl | rfl | rfl | rfl | rfl | rfl | rfl | rfl | rfl | rfl |
      rfl | rfl | rfl | rfl | rfl | rfl | rfl <;> rfl
  refine readSequence_backslash ?_
  simp [readPrimitive, hescape, itemPattern]

/-- **A name is read as the sequence of its characters**, whatever they are. -/
theorem readSequence_escape (name : Text) :
    readSequence (fuel + name.length) before (cursorAt (escape name ++ t)) =
      readSequence fuel (name.reverse.map charNode ++ before) (cursorAt t) := by
  induction name generalizing before with
  | nil => rfl
  | cons c name ih =>
      have hbefore : (c :: name).reverse.map charNode ++ before =
          name.reverse.map charNode ++ charNode c :: before := by simp
      rw [hbefore, ← ih, List.length_cons, ← Nat.add_assoc, escape]
      split
      · next hc => exact readSequence_escaped hc
      · next hc => exact readSequence_plain (by simpa using hc)

/-! ### Other parts -/

/-- A word character is the next part of a sequence. -/
theorem readSequence_word : readSequence (fuel + 1) before (cursorAt ('\\' :: 'w' :: t)) =
    readSequence fuel ({ pattern := .char .word, depth := 0 } :: before) (cursorAt t) :=
  readSequence_backslash (by simp [readPrimitive, readEscape, shorthand, itemPattern])

/-- A blank is the next part of a sequence. -/
theorem readSequence_space : readSequence (fuel + 1) before (cursorAt ('\\' :: 's' :: t)) =
    readSequence fuel ({ pattern := .char .space, depth := 0 } :: before) (cursorAt t) :=
  readSequence_backslash (by simp [readPrimitive, readEscape, shorthand, itemPattern])

/-- An end of a word is the next part of a sequence. -/
theorem readSequence_wordBoundary (ht : t.head? ≠ some '{') :
    readSequence (fuel + 1) before (cursorAt ('\\' :: 'b' :: t)) =
      readSequence fuel ({ pattern := .place (.wordBoundary .word), depth := 0 } :: before)
        (cursorAt t) := by
  have hmeta : isMeta 'b' = false := by decide
  refine readSequence_backslash ?_
  simp [readPrimitive, readEscape, itemPattern, isEscapable, hmeta, ht]

/-- A question mark or a plus repeats the part before it. -/
theorem readSequence_repeated {n : Node} (hn : n.repeatable = true) (hdepth : n.depth < maxDepth)
    (ht : t.head? ≠ some '?') {c : Char} {min : Nat} {max : Option Nat}
    (hc : (c, min, max) = ('?', 0, some 1) ∨ (c, min, max) = ('+', 1, none)) :
    readSequence (fuel + 1) (n :: before) (cursorAt (c :: t)) =
      readSequence fuel ({ pattern := .times min max n.pattern, depth := n.depth + 1 } :: before)
        (cursorAt t) := by
  rcases hc with hc | hc
  · cases hc
    rw [readSequence]
    simp [hn, skipLazy_cursorAt ht, nested_apply hdepth]
  · cases hc
    rw [readSequence]
    simp [hn, skipLazy_cursorAt ht, nested_apply hdepth]

/-- A sequence ends with the text, with its group, and where another choice begins. -/
theorem readSequence_end (ht : t.head? = none ∨ t.head? = some ')' ∨ t.head? = some '|') :
    readSequence (fuel + 1) before (cursorAt t) = sequenceOf before.reverse (cursorAt t) := by
  rw [readSequence]
  rcases ht with ht | ht | ht <;> simp [ht]

/-- A name alone is read as the sequence of its characters. -/
theorem readSequence_name {name : Text}
    (ht : t.head? = none ∨ t.head? = some ')' ∨ t.head? = some '|') :
    readSequence (fuel + 1 + name.length) [] (cursorAt (escape name ++ t)) =
      sequenceOf (name.map charNode) (cursorAt t) := by
  rw [readSequence_escape, readSequence_end ht, List.append_nil, List.map_reverse,
    List.reverse_reverse]

/-- A group without a name is read. -/
theorem readSequence_group {inner : Node} {rest : Text} (hdepth : inner.depth < maxDepth)
    (h : readChoice fuel [] (cursorAt t) = some (inner, cursorAt (')' :: rest))) :
    readSequence (fuel + 1) before (cursorAt ('(' :: '?' :: ':' :: t)) =
      readSequence fuel ({ pattern := inner.pattern, depth := inner.depth + 1 } :: before)
        (cursorAt rest) := by
  have hstart : readGroupStart (cursorAt ('(' :: '?' :: ':' :: t)) = some (true, cursorAt t) := by
    rfl
  have hclose : cursorAt (')' :: rest) = { rest := ')' :: rest } := rfl
  rw [readSequence]
  simp [hstart, h, nested_apply hdepth]
  rfl

/-! ### Parts in sequence -/

/-- The pattern of a name, with another one behind it. -/
def literal (name : Text) (p : Pattern) : Pattern :=
  name.foldr (fun c p => .seq (.char (.single c)) p) p

/-- The pattern of some parts, each behind the one before. -/
def inSequence (ns : List Node) : Pattern := ns.foldr (fun n p => .seq n.pattern p) .empty

/-- The parts of a name stand before the other parts of a sequence. -/
theorem inSequence_literal (name : Text) (ns : List Node) :
    inSequence (name.map charNode ++ ns) = literal name (inSequence ns) := by
  rw [inSequence, List.foldr_append, List.foldr_map]
  rfl

/-- Parts that do not nest too deeply do not do so together. -/
theorem foldl_depth_lt {ns : List Node} {d : Nat} (hd : d < maxDepth)
    (h : ∀ n ∈ ns, n.depth < maxDepth) :
    ns.foldl (fun d n => Nat.max d n.depth) d < maxDepth := by
  induction ns generalizing d with
  | nil => exact hd
  | cons n ns ih =>
      refine ih ?_ fun n' hn' => h n' (List.mem_cons_of_mem n hn')
      exact Nat.max_lt.mpr ⟨hd, h n List.mem_cons_self⟩

/-- How deep the parts of a sequence nest. -/
def depthOf (ns : List Node) : Nat := ns.foldl (fun d n => Nat.max d n.depth) 0

/-- Two parts or more are a sequence. -/
theorem sequenceOf_apply {ns : List Node} (hlength : 1 < ns.length)
    (h : ∀ n ∈ ns, n.depth < maxDepth) (s : Cursor) :
    sequenceOf ns s = some ({ pattern := inSequence ns, depth := depthOf ns + 1 }, s) := by
  have hdepth : 0 < maxDepth := by decide
  match ns, hlength with
  | m :: n :: ns, _ => exact nested_apply (foldl_depth_lt hdepth h) s

/-- The parts of a name do not nest too deeply. -/
theorem charNode_depth_lt {name : Text} {n : Node} (h : n ∈ name.map charNode) :
    n.depth < maxDepth := by
  obtain ⟨c, -, rfl⟩ := List.mem_map.mp h
  exact (by decide : 0 < maxDepth)

/-- The parts of a name do not nest. -/
theorem depthOf_name (name : Text) : depthOf (name.map charNode) = 0 := by
  induction name with
  | nil => rfl
  | cons c name ih => exact ih

/-- Two characters or more are a sequence. -/
theorem sequenceOf_name {name : Text} (hlength : 1 < name.length) (s : Cursor) :
    sequenceOf (name.map charNode) s = some ({ pattern := literal name .empty, depth := 1 }, s) := by
  have hpattern := inSequence_literal name []
  rw [List.append_nil] at hpattern
  rw [sequenceOf_apply (by rwa [List.length_map]) fun _ hn => charNode_depth_lt hn, depthOf_name,
    hpattern]
  rfl

/-- What is ahead of a name is no question mark. -/
theorem head?_escape_ne {name t : Text} {c : Char} (hc : isMeta c = true) (hne : c ≠ '\\')
    (ht : t.head? ≠ some c) : (escape name ++ t).head? ≠ some c := by
  cases name with
  | nil => exact ht
  | cons d name =>
      rw [escape]
      split
      · simpa using hne.symm
      · next hd =>
        have hcd : d ≠ c := by
          rintro rfl
          exact hd hc
        simpa using hcd

/-! ### The pattern of a cast -/

/-- The pattern of a table's name with the point behind it. -/
def qualifier : Pattern := .seq (.times 1 none (.char .word)) (.seq (.char (.single '.')) .empty)

/-- The text of a cast behind the name of the table. -/
def quotedColumn (column : String) : Text := '"' :: (column.toList ++ "\" AS DOUBLE)".toList)

/-- The pattern for the cast of a column. -/
def castPattern (column : String) : Pattern :=
  literal "TRY_CAST(".toList
    (.seq (.times 0 (some 1) qualifier) (literal (quotedColumn column) .empty))

/-- Two names, one behind the other, are escaped one by one. -/
theorem escape_append (name name' : Text) : escape (name ++ name') = escape name ++ escape name' := by
  induction name with
  | nil => rfl
  | cons c name ih =>
      rw [List.cons_append, escape, escape]
      split
      · rw [ih, List.cons_append, List.cons_append]
      · rw [ih, List.cons_append]

/-- The text for the cast of a column, in the parts in which it is read. -/
theorem castText_eq (column : String) : castText column = escape "TRY_CAST(".toList ++
    ('(' :: '?' :: ':' :: ("\\w+\\.".toList ++ (')' :: '?' :: escape (quotedColumn column)))) := by
  have hhead : "TRY_CAST\\((?:\\w+\\.)?\"".toList =
      escape "TRY_CAST(".toList ++ '(' :: '?' :: ':' :: ("\\w+\\.".toList ++ [')', '?', '"']) := by
    decide +kernel
  have htail : "\" AS DOUBLE\\)".toList = escape "\" AS DOUBLE)".toList := by
    decide +kernel
  have hquoted : escape (quotedColumn column) =
      '"' :: (escape column.toList ++ escape "\" AS DOUBLE)".toList) := by
    rw [← escape_append]
    exact if_neg (by decide)
  refine (congr (congrArg (fun a b => a ++ (escape column.toList ++ b)) hhead) htail).trans ?_
  rw [hquoted]
  simp only [List.append_assoc, List.cons_append, List.nil_append]

/-- Behind a bar, the next sequence of a choice is read. -/
theorem readChoice_bar {n : Node} {u : Text}
    (h : readSequence fuel [] (cursorAt t) = some (n, cursorAt ('|' :: u))) :
    readChoice (fuel + 1) before (cursorAt t) = readChoice fuel (n :: before) (cursorAt u) := by
  rw [readChoice]
  simp [h]

/-- Without a bar behind it, a sequence is the last of its choice. -/
theorem readChoice_last {n : Node} {u : Text} (hu : u.head? ≠ some '|')
    (h : readSequence fuel [] (cursorAt t) = some (n, cursorAt u)) :
    readChoice (fuel + 1) before (cursorAt t) = choiceOf (n :: before).reverse (cursorAt u) := by
  rw [readChoice]
  simp [h, hu]

/-- A choice without a bar is its only sequence. -/
theorem readChoice_single {n : Node} {u : Text} (hu : u.head? ≠ some '|')
    (h : readSequence fuel [] (cursorAt t) = some (n, cursorAt u)) :
    readChoice (fuel + 1) [] (cursorAt t) = some (n, cursorAt u) := by
  rw [readChoice_last hu h]
  rfl

/-- The length of what stands before the group in the text for a cast. -/
theorem length_castStart : "TRY_CAST(".toList.length = 9 := by decide

/-- The optional name of a table is read in its group. -/
theorem readChoice_qualifier (hfuel : 5 ≤ fuel) :
    readChoice fuel [] (cursorAt ("\\w+\\.".toList ++ ')' :: t)) =
      some ({ pattern := qualifier, depth := 2 }, cursorAt (')' :: t)) := by
  obtain ⟨more, rfl⟩ := Nat.exists_eq_add_of_le' hfuel
  have htext : "\\w+\\.".toList ++ ')' :: t = '\\' :: 'w' :: '+' :: '\\' :: '.' :: ')' :: t := by
    simp
  refine readChoice_single (by simp) ?_
  rw [htext, readSequence_word, readSequence_repeated rfl (by decide) (by simp) (Or.inr rfl),
    readSequence_escaped (by decide), readSequence_end (by simp)]
  rfl

/-- Escaping does not shorten a name. -/
theorem length_le_length_escape (name : Text) : name.length ≤ (escape name).length := by
  induction name with
  | nil => exact Nat.le_refl _
  | cons c name ih =>
      rw [escape]
      split
      · simp only [List.length_cons]
        omega
      · simp only [List.length_cons]
        omega

/-- A text that is read as a whole is a pattern. -/
theorem parse?_eq_some {n : Node}
    (h : readChoice (2 * t.length + 2) [] (cursorAt t) = some (n, cursorAt [])) :
    parse? t = some n.pattern := by
  have hrun : (readChoice (2 * t.length + 2) []).run { rest := t } = some (n, cursorAt []) := h
  rw [parse?, hrun]
  rfl

/-- The parts of the pattern for the cast of a column. -/
def castParts (column : String) : List Node :=
  "TRY_CAST(".toList.map charNode ++
    { pattern := .times 0 (some 1) qualifier, depth := 4 } :: (quotedColumn column).map charNode

/-- The parts for the cast of a column make its pattern. -/
theorem inSequence_castParts (column : String) :
    inSequence (castParts column) = castPattern column := by
  have hquoted := inSequence_literal (quotedColumn column) []
  rw [List.append_nil] at hquoted
  unfold castParts
  rw [inSequence_literal, castPattern]
  exact congrArg (fun p => literal _ (.seq _ p)) hquoted

/-- The parts for the cast of a column do not nest too deeply. -/
theorem castParts_depth_lt {column : String} {n : Node} (h : n ∈ castParts column) :
    n.depth < maxDepth := by
  rcases List.mem_append.mp h with h | h
  · exact charNode_depth_lt h
  · rcases List.mem_cons.mp h with rfl | h
    · exact (by decide : 4 < maxDepth)
    · exact charNode_depth_lt h

/-- Reading the text for a cast takes a step for each of its parts, and five more in the group. -/
theorem readChoice_castText (column : String) (hfuel : (quotedColumn column).length + 17 ≤ fuel) :
    readChoice fuel [] (cursorAt (castText column)) =
      some ({ pattern := castPattern column, depth := depthOf (castParts column) + 1 },
        cursorAt []) := by
  obtain ⟨more, hmore⟩ := Nat.exists_eq_add_of_le' hfuel
  have hsteps : fuel = more + 4 + 1 + (quotedColumn column).length + 1 + 1 +
      "TRY_CAST(".toList.length + 1 := by
    have hsize := length_castStart
    omega
  have hlength : 1 < (castParts column).length := by
    unfold castParts
    simp only [List.length_append, List.length_map, List.length_cons]
    omega
  have hahead : (escape (quotedColumn column) ++ []).head? ≠ some '?' :=
    head?_escape_ne (by decide) (by decide) (by simp)
  have hparts : ((quotedColumn column).reverse.map charNode ++
      ({ pattern := .times 0 (some 1) qualifier, depth := 4 } : Node) ::
        ("TRY_CAST(".toList.reverse.map charNode ++ [])).reverse = castParts column := by
    unfold castParts
    simp
  rw [hsteps, castText_eq, ← List.append_nil (escape (quotedColumn column))]
  refine readChoice_single (by simp) ?_
  rw [readSequence_escape, readSequence_group (by decide) (readChoice_qualifier (by omega)),
    readSequence_repeated rfl (by decide) hahead (Or.inl rfl), readSequence_escape,
    readSequence_end (by simp), hparts,
    sequenceOf_apply hlength fun _ hn => castParts_depth_lt hn, inSequence_castParts]

/-- **The pattern for the cast of a column is read**, whatever the column. -/
theorem parse?_castText (column : String) :
    parse? (castText column) = some (castPattern column) := by
  refine parse?_eq_some (readChoice_castText column ?_)
  have hquoted := length_le_length_escape (quotedColumn column)
  have hhead := length_le_length_escape "TRY_CAST(".toList
  have hsize := length_castStart
  rw [castText_eq]
  simp only [List.length_append, List.length_cons]
  omega

/-! ### The pattern of a table -/

/-- The pattern of the words that a table's name follows. -/
def readingWord : Pattern :=
  .alt (literal ['F', 'R', 'O', 'M'] .empty) (literal ['J', 'O', 'I', 'N'] .empty)

/-- The pattern for a reference to a table. -/
def tablePattern (table : String) : Pattern :=
  .seq (.place (.wordBoundary .word)) (.seq readingWord (.seq (.times 1 none (.char .space))
    (literal table.toList (.seq (.place (.wordBoundary .word)) .empty))))

/-- The text for a reference to a table, in the parts in which it is read. -/
theorem tableText_eq (table : String) : tableText table =
    '\\' :: 'b' :: '(' :: '?' :: ':' :: (escape ['F', 'R', 'O', 'M'] ++ '|' ::
      (escape ['J', 'O', 'I', 'N'] ++ ')' :: '\\' :: 's' :: '+' ::
        (escape table.toList ++ ['\\', 'b']))) := by
  have hhead : "\\b(?:FROM|JOIN)\\s+".toList = '\\' :: 'b' :: '(' :: '?' :: ':' ::
      (escape ['F', 'R', 'O', 'M'] ++ '|' ::
        (escape ['J', 'O', 'I', 'N'] ++ [')', '\\', 's', '+'])) := by
    decide +kernel
  have htail : "\\b".toList = ['\\', 'b'] := by decide
  refine (congr (congrArg (fun a b => a ++ (escape table.toList ++ b)) hhead) htail).trans ?_
  simp only [List.append_assoc, List.cons_append, List.nil_append]

/-- A choice between two names is read in its group. -/
theorem readChoice_names {name name' : Text} (hname : 1 < name.length) (hname' : 1 < name'.length)
    (hfuel : name.length + 2 ≤ fuel) (hfuel' : name'.length + 3 ≤ fuel) :
    readChoice fuel [] (cursorAt (escape name ++ '|' :: (escape name' ++ ')' :: t))) =
      some ({ pattern := .alt (literal name .empty) (literal name' .empty), depth := 2 },
        cursorAt (')' :: t)) := by
  obtain ⟨first, hfirst⟩ := Nat.exists_eq_add_of_le' hfuel
  obtain ⟨second, hsecond⟩ := Nat.exists_eq_add_of_le' hfuel'
  have hstart : fuel = first + 1 + name.length + 1 := by omega
  have hnext : first + 1 + name.length = second + 1 + name'.length + 1 := by omega
  have hread := @readSequence_name first ('|' :: (escape name' ++ ')' :: t)) name
    (Or.inr (Or.inr rfl))
  have hread' := @readSequence_name second (')' :: t) name' (Or.inr (Or.inl rfl))
  rw [sequenceOf_name hname] at hread
  rw [sequenceOf_name hname'] at hread'
  rw [hstart, readChoice_bar hread, hnext, readChoice_last (by simp) hread']
  exact nested_apply (by decide : 1 < maxDepth) _

/-- The word before the name of a table is read in its group. -/
theorem readChoice_readingWord (hfuel : 7 ≤ fuel) :
    readChoice fuel [] (cursorAt (escape ['F', 'R', 'O', 'M'] ++ '|' ::
        (escape ['J', 'O', 'I', 'N'] ++ ')' :: t))) =
      some ({ pattern := readingWord, depth := 2 }, cursorAt (')' :: t)) :=
  readChoice_names (by decide) (by decide) (Nat.le_trans (by decide) hfuel) hfuel

/-- The place at an end of a word. -/
def boundary : Node := { pattern := .place (.wordBoundary .word), depth := 0 }

/-- The parts of the pattern for a reference to a table. -/
def tableParts (table : String) : List Node :=
  boundary :: { pattern := readingWord, depth := 3 } ::
    { pattern := .times 1 none (.char .space), depth := 1 } ::
      (table.toList.map charNode ++ [boundary])

/-- The parts for a reference to a table make its pattern. -/
theorem inSequence_tableParts (table : String) :
    inSequence (tableParts table) = tablePattern table := by
  have hparts : inSequence (tableParts table) = .seq boundary.pattern (.seq readingWord
      (.seq (.times 1 none (.char .space))
        (inSequence (table.toList.map charNode ++ [boundary])))) := rfl
  rw [hparts, inSequence_literal]
  rfl

/-- The parts for a reference to a table do not nest too deeply. -/
theorem tableParts_depth_lt {table : String} {n : Node} (h : n ∈ tableParts table) :
    n.depth < maxDepth := by
  simp only [tableParts, List.mem_cons, List.mem_append, List.not_mem_nil, or_false] at h
  rcases h with rfl | rfl | rfl | h | rfl
  · exact (by decide : 0 < maxDepth)
  · exact (by decide : 3 < maxDepth)
  · exact (by decide : 1 < maxDepth)
  · exact charNode_depth_lt h
  · exact (by decide : 0 < maxDepth)

/-- Reading the text for a table takes a step for each of its parts, and seven more in the group. -/
theorem readChoice_tableText (table : String) (hfuel : table.toList.length + 15 ≤ fuel) :
    readChoice fuel [] (cursorAt (tableText table)) =
      some ({ pattern := tablePattern table, depth := depthOf (tableParts table) + 1 },
        cursorAt []) := by
  obtain ⟨more, hmore⟩ := Nat.exists_eq_add_of_le' hfuel
  have hsteps : fuel = more + 8 + 1 + 1 + table.toList.length + 1 + 1 + 1 + 1 + 1 := by omega
  have hlength : 1 < (tableParts table).length := by
    simp only [tableParts, List.length_cons]
    omega
  have hahead : (escape table.toList ++ ['\\', 'b']).head? ≠ some '?' :=
    head?_escape_ne (by decide) (by decide) (by simp)
  have hparts : (boundary :: (table.toList.reverse.map charNode ++
      [{ pattern := .times 1 none (.char .space), depth := 1 }, { pattern := readingWord, depth := 3 },
        boundary])).reverse = tableParts table := by
    simp [tableParts]
  rw [hsteps, tableText_eq]
  refine readChoice_single (by simp) ?_
  rw [readSequence_wordBoundary (by simp), readSequence_group (by decide)
    (readChoice_readingWord (by omega)), readSequence_space,
    readSequence_repeated rfl (by decide) hahead (Or.inr rfl), readSequence_escape,
    readSequence_wordBoundary (by simp), readSequence_end (by simp)]
  rw [← boundary, hparts, sequenceOf_apply hlength fun _ hn => tableParts_depth_lt hn,
    inSequence_tableParts]

/-- **The pattern for a reference to a table is read**, whatever the table. -/
theorem parse?_tableText (table : String) :
    parse? (tableText table) = some (tablePattern table) := by
  refine parse?_eq_some (readChoice_tableText table ?_)
  have hname := length_le_length_escape table.toList
  rw [tableText_eq]
  simp only [List.length_append, List.length_cons]
  omega

end PageLint.Pattern
