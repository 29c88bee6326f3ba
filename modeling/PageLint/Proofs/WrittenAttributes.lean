import PageLint.Proofs.AttributeGrammar

/-!
# Attributes as they are written

The attributes of a tag are written one behind the other with blanks between them: a flag as its
name, any other attribute as its name, an equals sign that may have blanks around it, and the value
(`Attributes.render`). A value is a text in quotes, an expression in braces or a bare word
(`Attributes.IsValue`).

Whether a text is an expression in braces is said by counting. `Attributes.Nesting` goes through the
text and keeps how many braces are open, where braces inside quotes do not count; the expression ends
where no brace is open for the first time (`Attributes.IsBraceExpression`).

## Main results

* `Attributes.readBraces_append`: an expression in braces is read up to the brace that closes it.
* `Attributes.IsValue.readValue_append`: a value is read as it is written.
* `Attributes.readPairs_render`: **reading undoes writing**, for attributes of every form in every
  order.
-/

namespace PageLint.Attributes

/-! ### Expressions in braces -/

/-- How far a walk through a text has come: how many braces are open, and the quote inside of which
it is, if there is one. -/
structure Nesting where
  /-- The opening braces less the closing ones. -/
  depth : Int
  /-- The quote that is open. -/
  quote : Option Char
  deriving DecidableEq, Repr

namespace Nesting

/-- The walk behind one more character. A quote is open up to the next of its kind, and what stands
between them does not count. -/
def step (n : Nesting) (c : Char) : Nesting :=
  match n.quote with
  | some q => if c = q then { n with quote := none } else n
  | none =>
    if c = '\'' ∨ c = '"' ∨ c = '`' then { n with quote := some c }
    else if c = '{' then { n with depth := n.depth + 1 }
    else if c = '}' then { n with depth := n.depth - 1 }
    else n

/-- The walk behind a text. -/
def through (n : Nesting) (t : Text) : Nesting := t.foldl step n

/-- Before the first character. -/
def start : Nesting := ⟨0, none⟩

end Nesting

/-- A text in braces: it begins with a brace, the braces outside of quotes are balanced, all quotes
are closed, and the last character is the first behind which no brace is open. -/
structure IsBraceExpression (v : Text) : Prop where
  /-- The first character opens a brace. -/
  opens : v.head? = some '{'
  /-- At the end no brace and no quote is open. -/
  closes : Nesting.start.through v = Nesting.start
  /-- Before the end some brace is open. -/
  first : ∀ n < v.length, 0 < n → (Nesting.start.through (v.take n)).depth ≠ 0

instance : DecidablePred IsBraceExpression := fun v =>
  decidable_of_iff (v.head? = some '{' ∧ Nesting.start.through v = Nesting.start ∧
      ∀ n < v.length, 0 < n → (Nesting.start.through (v.take n)).depth ≠ 0)
    ⟨fun ⟨h₁, h₂, h₃⟩ => ⟨h₁, h₂, h₃⟩, fun h => ⟨h.opens, h.closes, h.first⟩⟩

/-- One character of an expression in braces, at a place where some brace is open. The reading goes on
as the walk does, or the walk is at its end and so is the reading. -/
theorem readBraces_cons {depth : Nat} (hopen : 0 < depth) (quote : Option Char) (c : Char) :
    (∃ depth' : Nat, ∃ quote', 0 < depth' ∧ Nesting.step ⟨depth, quote⟩ c = ⟨depth', quote'⟩ ∧
      ∀ t, readBraces depth quote (c :: t) =
        (c :: (readBraces depth' quote' t).1, (readBraces depth' quote' t).2)) ∨
    Nesting.step ⟨depth, quote⟩ c = Nesting.start ∧
      ∀ t, readBraces depth quote (c :: t) = ([c], t) := by
  cases quote with
  | some q =>
      by_cases hq : c = q
      · exact Or.inl ⟨depth, none, hopen, by simp [Nesting.step, hq], by simp [readBraces, hq]⟩
      · exact Or.inl ⟨depth, some q, hopen, by simp [Nesting.step, hq], by simp [readBraces, hq]⟩
  | none =>
      by_cases hmark : c = '\'' ∨ c = '"' ∨ c = '`'
      · exact Or.inl ⟨depth, some c, hopen, by simp only [Nesting.step, if_pos hmark],
          by simp only [readBraces, if_pos hmark, implies_true]⟩
      by_cases hopening : c = '{'
      · subst hopening
        exact Or.inl ⟨depth + 1, none, Nat.succ_pos _, rfl, fun t => rfl⟩
      by_cases hclosing : c = '}'
      · subst hclosing
        by_cases hlast : depth ≤ 1
        · obtain rfl : depth = 1 := by omega
          exact Or.inr ⟨rfl, fun t => rfl⟩
        · refine Or.inl ⟨depth - 1, none, by omega, ?_, ?_⟩
          · have hdepth : (depth : Int) - 1 = (depth - 1 : Nat) := by omega
            exact congrArg (Nesting.mk · none) hdepth
          · intro t
            simp [readBraces, hlast]
      · exact Or.inl ⟨depth, none, hopen, by simp [Nesting.step, hmark, hopening, hclosing],
          by simp [readBraces, hmark, hopening, hclosing]⟩

/-- An expression in braces, from a place where some are open: the reading ends at the first place
where none is, whatever follows there. -/
theorem readBraces_append {depth : Nat} {quote : Option Char} {v : Text} (hopen : 0 < depth)
    (hend : Nesting.through ⟨depth, quote⟩ v = Nesting.start)
    (hfirst : ∀ n < v.length, (Nesting.through ⟨depth, quote⟩ (v.take n)).depth ≠ 0) (t : Text) :
    readBraces depth quote (v ++ t) = (v, t) := by
  induction v generalizing depth quote with
  | nil =>
      have hdepth : (depth : Int) = 0 := congrArg Nesting.depth hend
      omega
  | cons c v ih =>
      rcases readBraces_cons hopen quote c with ⟨depth', quote', hopen', hstep, hread⟩ | ⟨hstep, hread⟩
      · have hrest : readBraces depth' quote' (v ++ t) = (v, t) := by
          refine ih hopen' (hstep ▸ hend) ?_
          intro n hn
          have hsucc := hfirst (n + 1) (Nat.succ_lt_succ hn)
          rwa [List.take_succ_cons, Nesting.through, List.foldl_cons, hstep] at hsucc
        rw [List.cons_append, hread, hrest]
      · cases v with
        | nil => exact hread t
        | cons d v =>
            have hone := hfirst 1 (by simp)
            simp only [List.take_succ_cons, List.take_zero, Nesting.through, List.foldl_cons,
              List.foldl_nil, hstep] at hone
            exact absurd rfl hone

/-- **An expression in braces is read up to the brace that closes it.** -/
theorem IsBraceExpression.readBraces_append {v : Text} (h : IsBraceExpression v) (t : Text) :
    readBraces 0 none (v ++ t) = (v, t) := by
  obtain ⟨hopens, hcloses, hfirst⟩ := h
  cases v with
  | nil => cases hopens
  | cons c v =>
      obtain rfl := Option.some.inj hopens
      have hrest : readBraces 1 none (v ++ t) = (v, t) := by
        refine Attributes.readBraces_append Nat.one_pos hcloses ?_ t
        intro n hn
        exact hfirst (n + 1) (Nat.succ_lt_succ hn) (Nat.succ_pos n)
      show ('{' :: (readBraces 1 none (v ++ t)).1, (readBraces 1 none (v ++ t)).2) = _
      rw [hrest]

/-! ### Values -/

/-- The forms of a value. -/
inductive IsValue : Text → Prop where
  /-- A text in quotes, without the quote inside. -/
  | quoted {q : Char} {v : Text} : IsQuote q → q ∉ v → IsValue (q :: (v ++ [q]))
  /-- An expression in braces. -/
  | braces {v : Text} : IsBraceExpression v → IsValue v
  /-- A bare word: no blanks, and neither a quote nor a brace at its head. -/
  | bare {v : Text} : v ≠ [] → (∀ c ∈ v, isAsciiSpace c = false) →
      (∀ c, v.head? = some c → ¬IsQuote c ∧ c ≠ '{') → IsValue v

/-- The head of a value is no blank. -/
theorem IsValue.exists_head {v : Text} (h : IsValue v) :
    ∃ c t, v = c :: t ∧ isAsciiSpace c = false := by
  cases h with
  | quoted hq _ => exact ⟨_, _, rfl, hq.not_isAsciiSpace⟩
  | braces h =>
      cases v with
      | nil => cases h.opens
      | cons c t =>
          obtain rfl := Option.some.inj h.opens
          exact ⟨_, t, rfl, by decide⟩
  | bare hne hblank _ =>
      cases v with
      | nil => exact absurd rfl hne
      | cons c t => exact ⟨c, t, rfl, hblank c List.mem_cons_self⟩

/-- **A value is read as it is written**, in front of a blank or the end of the text. -/
theorem IsValue.readValue_append {v : Text} (h : IsValue v) {t : Text}
    (ht : ∀ c, t.head? = some c → isAsciiSpace c = true) : readValue (v ++ t) = (v, t) := by
  cases h with
  | @quoted q v hq hmem =>
      rw [List.cons_append, List.append_assoc]
      exact readValue_quoted hq hmem t
  | braces h =>
      have hread := h.readBraces_append t
      cases v with
      | nil => cases h.opens
      | cons c v =>
          obtain rfl := Option.some.inj h.opens
          rwa [List.cons_append, readValue, if_neg (by decide), if_pos rfl]
  | bare hne hblank hhead =>
      cases v with
      | nil => exact absurd rfl hne
      | cons c v =>
          obtain ⟨hquote, hbrace⟩ := hhead c rfl
          have hword : ∀ d ∈ c :: v, (!isAsciiSpace d) = true := fun d hd => by
            rw [hblank d hd]
            rfl
          have hend : ∀ d, t.head? = some d → (!isAsciiSpace d) = false := fun d hd => by
            rw [ht d hd]
            rfl
          obtain ⟨htake, hdrop⟩ := Text.takeWhile_dropWhile_append hword hend
          rw [List.cons_append] at htake hdrop ⊢
          rw [readValue, if_neg (show ¬(c = '\'' ∨ c = '"') from hquote), if_neg hbrace, htake, hdrop]

/-! ### Attributes -/

/-- Blanks of ASCII. -/
abbrev Blanks := { t : Text // ∀ c ∈ t, isAsciiSpace c = true }

/-- An attribute as it is written. -/
structure Written where
  /-- The name. -/
  name : Text
  /-- The value; that of a flag is empty. -/
  value : Text
  /-- The blanks in front of the equals sign. -/
  before : Blanks
  /-- The blanks behind the equals sign. -/
  behind : Blanks
  /-- The blanks between this attribute and the next. -/
  gap : Blanks
  /-- A name has a character. -/
  name_ne_nil : name ≠ []
  /-- A name is made of letters, digits and a few marks. -/
  isNameChar_of_mem : ∀ c ∈ name, isNameChar c = true
  /-- A value has one of the forms. -/
  isValue : value = [] ∨ IsValue value
  /-- Attributes do not touch. -/
  gap_ne_nil : gap.val ≠ []

namespace Written

/-- The attribute without the blanks behind it. -/
def text (w : Written) : Text :=
  if w.value = [] then w.name
  else w.name ++ (w.before.val ++ '=' :: (w.behind.val ++ w.value))

/-- What the attribute says. -/
def pair (w : Written) : Text × Text := (w.name, w.value)

/-- An attribute is read as it is written, in front of blanks that no equals sign follows and at the
end of the text. -/
theorem readPairs_text (w : Written) {t : Text}
    (hblank : ∀ c, t.head? = some c → isAsciiSpace c = true)
    (hnext : (t.dropWhile isAsciiSpace).head? ≠ some '=') :
    readPairs (w.text ++ t) = w.pair :: readPairs t := by
  by_cases hflag : w.value = []
  · rw [text, if_pos hflag, pair, hflag]
    exact readPairs_flag w.name_ne_nil w.isNameChar_of_mem
      (fun c hc => not_isNameChar_of_isAsciiSpace (hblank c hc)) hnext
  · have hvalue : IsValue w.value := w.isValue.resolve_left hflag
    have hhead : ∀ c, (w.value ++ t).head? = some c → isAsciiSpace c = false := by
      obtain ⟨d, v, hv, hd⟩ := hvalue.exists_head
      intro c hc
      rw [hv, List.cons_append, List.head?_cons] at hc
      exact Option.some.inj hc ▸ hd
    rw [text, if_neg hflag, List.append_assoc, List.append_assoc, List.cons_append,
      List.append_assoc]
    exact readPairs_valued w.name_ne_nil w.isNameChar_of_mem w.before.property w.behind.property
      hhead (hvalue.readValue_append hblank)

/-- The head of an attribute is the head of its name. -/
theorem exists_head_text (w : Written) :
    ∃ c t, w.text = c :: t ∧ isNameChar c = true := by
  cases hname : w.name with
  | nil => exact absurd hname w.name_ne_nil
  | cons c name =>
      have hc : isNameChar c = true :=
        w.isNameChar_of_mem c (hname ▸ List.mem_cons_self)
      by_cases hflag : w.value = []
      · exact ⟨c, name, by rw [text, if_pos hflag, hname], hc⟩
      · exact ⟨c, _, by rw [text, if_neg hflag, hname, List.cons_append], hc⟩

end Written

/-- The text of some attributes: one behind the other, with blanks between them. -/
def render : List Written → Text
  | [] => []
  | [w] => w.text
  | w :: ws => w.text ++ (w.gap.val ++ render ws)

/-- Between an attribute and the next are the blanks of its gap. -/
theorem render_cons_cons (w w' : Written) (ws : List Written) :
    render (w :: w' :: ws) = w.text ++ (w.gap.val ++ render (w' :: ws)) := rfl

/-- The text of one or more attributes begins with a name. -/
theorem exists_head_render (w : Written) (ws : List Written) :
    ∃ c t, render (w :: ws) = c :: t ∧ isNameChar c = true := by
  obtain ⟨c, t, htext, hc⟩ := w.exists_head_text
  cases ws with
  | nil => exact ⟨c, t, htext, hc⟩
  | cons w' ws => exact ⟨c, _, by rw [render_cons_cons, htext, List.cons_append], hc⟩

/-- **Reading undoes writing.** The attributes of a text that was written from some attributes are
these, in order, with their values as they were written. -/
theorem readPairs_render (ws : List Written) :
    (read (render ws)).pairs = ws.map Written.pair := by
  show readPairs (render ws) = _
  induction ws with
  | nil => rw [render, readPairs, List.map_nil]
  | cons w ws ih =>
      cases ws with
      | nil =>
          have hlast := @Written.readPairs_text w [] (by simp) (by simp)
          rwa [List.append_nil, readPairs] at hlast
      | cons w' ws =>
          obtain ⟨c, t, hrender, hc⟩ := exists_head_render w' ws
          have hhead : ∀ d, (render (w' :: ws)).head? = some d → isNameChar d = true := by
            intro d hd
            rw [hrender] at hd
            exact Option.some.inj hd ▸ hc
          obtain ⟨-, hdrop⟩ := Text.takeWhile_dropWhile_append w.gap.property fun d hd =>
            not_isAsciiSpace_of_isNameChar (hhead d hd)
          have hnext : ((w.gap.val ++ render (w' :: ws)).dropWhile isAsciiSpace).head? ≠
              some '=' := by
            rw [hdrop]
            exact fun heq => absurd (hhead _ heq) (by decide)
          have hblank : ∀ d, (w.gap.val ++ render (w' :: ws)).head? = some d →
              isAsciiSpace d = true := by
            intro d hd
            rw [List.head?_append, Option.or_of_isSome (by simp [w.gap_ne_nil])] at hd
            exact w.gap.property d (List.mem_of_mem_head? hd)
          rw [render_cons_cons, w.readPairs_text hblank hnext, readPairs_blanks w.gap.property, ih]
          rfl

/-- Attributes of all forms: an expression with a brace in quotes, a flag, a bare word that begins with
an equals sign, and a text in quotes. -/
theorem readPairs_render_mixed :
    IsBraceExpression "\x7b['a\x7d', \x7bb: `\x7b`\x7d]\x7d".toList ∧
      (read "y = \x7b['a\x7d', \x7bb: `\x7b`\x7d]\x7d\n flag n==1\ttitle=\"it's é\"".toList).pairs =
        [("y".toList, "\x7b['a\x7d', \x7bb: `\x7b`\x7d]\x7d".toList), ("flag".toList, []),
         ("n".toList, "=1".toList), ("title".toList, "\"it's é\"".toList)] := by
  have hbraces : IsBraceExpression "\x7b['a\x7d', \x7bb: `\x7b`\x7d]\x7d".toList := by decide
  have hquoted : IsValue "\"it's é\"".toList :=
    @IsValue.quoted '"' "it's é".toList (Or.inr rfl) (by decide)
  have hbare : IsValue "=1".toList :=
    .bare (by decide) (by simp [isAsciiSpace]) (by simp [IsQuote])
  have hall : ∀ {p : Char → Bool} {t : Text}, t.all p = true → ∀ c ∈ t, p c = true :=
    List.all_eq_true.mp
  let blank : Blanks := ⟨[' '], hall rfl⟩
  let no : Blanks := ⟨[], hall rfl⟩
  let line : Blanks := ⟨['\n', ' '], hall rfl⟩
  let tab : Blanks := ⟨['\t'], hall rfl⟩
  have hread := readPairs_render [
    ⟨"y".toList, _, blank, blank, line, by decide, hall rfl, Or.inr (.braces hbraces), by simp [line]⟩,
    ⟨"flag".toList, [], no, no, blank, by decide, hall rfl, Or.inl rfl, by simp [blank]⟩,
    ⟨"n".toList, _, no, no, tab, by decide, hall rfl, Or.inr hbare, by simp [tab]⟩,
    ⟨"title".toList, _, no, no, blank, by decide, hall rfl, Or.inr hquoted, by simp [blank]⟩]
  exact ⟨hbraces, hread⟩

end PageLint.Attributes
