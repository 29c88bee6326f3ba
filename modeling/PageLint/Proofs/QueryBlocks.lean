import PageLint.Markup.Page
import PageLint.Proofs.QueryGrammar
import PageLint.Proofs.ScanCoverage

/-!
# Query blocks as they are written

A page is written from query blocks by putting each between fences, with text between the blocks that
has no backticks (`QueryBlock.render`). The scan for blocks finds again what was written: it passes
over text without backticks (`QueryBlock.hitsFrom_append`), and where a block begins it takes off that
block and nothing more (`QueryBlock.Written.reader_text`).

A name is meant to stand on the line of the opening fence. The blanks in front of it may be line
feeds, though, so a fence without a name takes the first word below it for one, if that word is alone
on its line (`QueryBlock.LooksNamed`).

## Main results

* `QueryBlock.ofText_render`: **reading undoes writing**, with the position of each block.
* `QueryBlock.exists_at_iff`: a block begins where one can be read and no other lies over the place.
* `QueryBlock.namedOnLine_iff`: **when every name is on the line of its fence**, and when a fence
  without a name is passed over.
-/

namespace PageLint.QueryBlock

/-- What opens a query block, up to the blanks in front of the name. -/
def opening : Text := fence ++ ['s', 'q', 'l']

/-- A name has one or more characters, all of words. -/
def IsName (name : Text) : Prop := name ≠ [] ∧ ∀ c ∈ name, isWordChar c = true

instance (name : Text) : Decidable (IsName name) :=
  decidable_of_iff (name ≠ [] ∧ name.all isWordChar = true) (by rw [IsName, List.all_eq_true])

/-- The blanks in front of a name are as many as there are. -/
theorem takeWhile_append_name {gap name : Text} (hgap : ∀ c ∈ gap, isSpace c = true)
    (hname : IsName name) (rest : Text) : (gap ++ (name ++ rest)).takeWhile isSpace = gap ∧
      (gap ++ (name ++ rest)).dropWhile isSpace = name ++ rest := by
  refine Text.takeWhile_dropWhile_append hgap ?_
  intro c hc
  obtain ⟨hne, hword⟩ := hname
  cases name with
  | nil => exact absurd rfl hne
  | cons d name =>
      obtain rfl := Option.some.inj hc
      exact not_isSpace_of_isWordChar (hword d List.mem_cons_self)

/-- Reading a block takes something off. -/
theorem reader_consumes : reader.Consumes := by
  rintro before t ⟨name, body⟩ ahead hread
  obtain ⟨blanks, -, -, -, -, -, rfl⟩ := reader_eq_some_iff.mp hread
  refine ⟨opening ++ (blanks ++ (name ++ '\n' :: (body ++ fence))), List.cons_ne_nil _ _, ?_⟩
  simp [opening]

/-! ### Writing -/

/-- A query block as it is written, with the text behind it. -/
structure Written where
  /-- The name behind the opening fence. -/
  name : Text
  /-- The SQL between the fences. -/
  body : Text
  /-- The text behind the closing fence, up to the next block or to the end of the page. -/
  behind : Text
  /-- The name is one. -/
  isName : IsName name
  /-- The SQL holds no fence. -/
  fence_free : ¬fence <:+: body
  /-- The SQL does not run into the closing fence. -/
  getLast?_ne : body.getLast? ≠ some '`'
  /-- There is no backtick outside of blocks. -/
  backtick_free : '`' ∉ behind

namespace Written

/-- The block between its fences. -/
def text (w : Written) : Text := opening ++ (' ' :: (w.name ++ '\n' :: (w.body ++ fence)))

/-- What was written is read as it was written, whatever follows. -/
theorem reader_text (w : Written) (before : Option Char) (rest : Text) :
    reader before (w.text ++ rest) = some ((w.name, w.body), rest) := by
  obtain ⟨hne, hword⟩ := w.isName
  refine reader_eq_some_iff.mpr ⟨[' '], List.cons_ne_nil _ _, ?_, hne, hword,
    not_fence_infix w.fence_free w.getLast?_ne, ?_⟩
  · intro c hc
    obtain rfl := List.mem_singleton.mp hc
    decide
  · simp [text, opening]

end Written

/-- The text of a page with some query blocks: a beginning without backticks, and then one block
behind the other with the text between them. -/
def render (front : Text) (ws : List Written) : Text := front ++ ws.flatMap fun w => w.text ++ w.behind

/-- A block more is written behind the text of those before it. -/
theorem render_cons (front : Text) (w : Written) (ws : List Written) :
    render front (w :: ws) = render (front ++ (w.text ++ w.behind)) ws := by
  simp [render]

/-- The scan for blocks passes over text without backticks. -/
theorem hitsFrom_append {t : Text} (ht : '`' ∉ t) (behind rest : Text) :
    Text.hitsFrom reader behind 0 (t ++ rest) = Text.hitsFrom reader (t.reverse ++ behind) 0 rest := by
  induction t generalizing behind with
  | nil => rfl
  | cons c t ih =>
      have hnone : reader behind.head? (c :: (t ++ rest)) = none := by
        cases hread : reader behind.head? (c :: (t ++ rest)) with
        | none => rfl
        | some p =>
            obtain ⟨⟨name, body⟩, ahead⟩ := p
            obtain ⟨blanks, -, -, -, -, -, hform⟩ := reader_eq_some_iff.mp hread
            exact absurd (List.cons.inj hform).1.symm (List.ne_of_not_mem_cons ht)
      rw [List.cons_append, Text.hitsFrom_cons_of_none hnone, ih (List.not_mem_of_not_mem_cons ht),
        List.reverse_cons, List.append_assoc]
      rfl

/-- Behind a beginning that is passed, the scan finds the blocks that were written, each at the size
of the text that was written before it. -/
theorem map_hitsFrom_render (front : Text) (ws : List Written) :
    (Text.hitsFrom reader front.reverse 0 (ws.flatMap fun w => w.text ++ w.behind)).map
        (fun h => (⟨h.value.1, h.value.2, h.start⟩ : QueryBlock)) =
      ws.mapIdx fun i w => ⟨w.name, w.body, Text.utf8Size (render front (ws.take i))⟩ := by
  induction ws generalizing front with
  | nil => rfl
  | cons w ws ih =>
      have hne : w.text ≠ [] := List.cons_ne_nil _ _
      have hbehind : w.behind.reverse ++ (w.text.reverse ++ front.reverse) =
          (front ++ (w.text ++ w.behind)).reverse := by simp
      have hstart : Text.utf8Size front.reverse = Text.utf8Size (render front []) := by
        simp [render]
      rw [List.flatMap_cons, List.append_assoc, Text.hitsFrom_fragment hne (w.reader_text _ _),
        hitsFrom_append w.backtick_free, hbehind, List.map_cons, ih, List.mapIdx_cons]
      simp only [Hit.start, hstart, List.take_zero, List.take_succ_cons, render_cons]

/-- **Reading undoes writing.** The query blocks of a page that was written from some blocks are
these, in order, each with its SQL as it was written and with the position of its opening fence, which
is the size of the text that was written before it. The SQL of the page is theirs, with a line end
between each two. -/
theorem ofText_render {front : Text} (hfront : '`' ∉ front) (ws : List Written) (path : String) :
    ofText (render front ws) =
        ws.mapIdx (fun i w => ⟨w.name, w.body, Text.utf8Size (render front (ws.take i))⟩) ∧
      Page.sql ⟨path, render front ws⟩ = Text.join ['\n'] (ws.map (·.body)) := by
  have hblocks : ofText (render front ws) =
      ws.mapIdx fun i w => ⟨w.name, w.body, Text.utf8Size (render front (ws.take i))⟩ := by
    rw [ofText, Text.hits, render, hitsFrom_append hfront, List.append_nil, map_hitsFrom_render]
  have htexts : (ofText (render front ws)).map (·.text) = ws.map (·.body) := by
    rw [hblocks]
    exact List.ext_getElem (by simp) (by simp)
  exact ⟨hblocks, congrArg (Text.join ['\n']) htexts⟩

/-- Two blocks with one name, the second right behind the first and with backticks of its own, behind
a text that has more bytes than characters. -/
theorem ofText_render_doubled :
    let front : Text := "Trips é\n".toList
    let t : Text := "Trips é\n```sql trips\nSELECT 1\n``````sql trips\nSELECT ``a``, 2```\n".toList
    '`' ∉ front ∧
      ofText t = [⟨"trips".toList, "SELECT 1\n".toList, 9⟩,
        ⟨"trips".toList, "SELECT ``a``, 2".toList, 34⟩] ∧
      Page.sql ⟨"trips.md", t⟩ = "SELECT 1\n\nSELECT ``a``, 2".toList := by
  intro front t
  have hfront : '`' ∉ front := by decide
  let ws : List Written := [
    ⟨"trips".toList, "SELECT 1\n".toList, [], by decide +kernel,
      mt Text.occursIn_iff.mpr (by decide +kernel), by decide, by decide⟩,
    ⟨"trips".toList, "SELECT ``a``, 2".toList, ['\n'], by decide +kernel,
      mt Text.occursIn_iff.mpr (by decide +kernel), by decide, by decide⟩]
  obtain ⟨hblocks, hsql⟩ := ofText_render hfront ws "trips.md"
  have ht : render front ws = t := by decide +kernel
  rw [ht] at hblocks hsql
  exact ⟨hfront, hblocks.trans (by decide +kernel), hsql.trans (by decide +kernel)⟩

/-! ### Names -/

/-- Does nothing that is read as a block lie over the place behind `front`? Then the scan tries to
read a block there. -/
def Reached (t front : Text) : Prop :=
  ∀ h ∈ t.hits reader, Text.utf8Size front ≤ h.start ∨ h.stop ≤ Text.utf8Size front

/-- **Where a block begins**: a block can be read there, and no block lies over the place. -/
theorem exists_at_iff {front back : Text} :
    (∃ b ∈ ofText (front ++ back), b.offset = Text.utf8Size front) ↔
      (∃ p, reader front.reverse.head? back = some p) ∧ Reached (front ++ back) front := by
  refine Iff.trans ?_ (Text.exists_hit_at_iff reader_consumes)
  simp [ofText]

/-- At the position of a block are an opening fence, blanks and its name. -/
theorem exists_text_of_mem {t : Text} {b : QueryBlock} (hb : b ∈ ofText t) :
    ∃ front gap rest, t = front ++ (opening ++ (gap ++ (b.name ++ rest))) ∧
      b.offset = Text.utf8Size front ∧ (∀ c ∈ gap, isSpace c = true) ∧ IsName b.name := by
  obtain ⟨h, hmem, rfl⟩ := List.mem_map.mp hb
  obtain ⟨-, hread, ht⟩ := Text.read_of_mem_hits reader_consumes hmem
  obtain ⟨gap, -, hgap, hne, hword, -, hform⟩ := reader_eq_some_iff.mp hread
  exact ⟨h.behind.reverse, gap, '\n' :: (h.value.2 ++ (fence ++ h.ahead)), ht.trans (hform ▸ rfl),
    (Text.utf8Size_reverse h.behind).symm, hgap, hne, hword⟩

/-- Does the block stand in the text with its name on the line of the fence, behind blanks? -/
def NamedOnLine (t : Text) (b : QueryBlock) : Prop :=
  ∃ front gap rest, t = front ++ (opening ++ (gap ++ (b.name ++ rest))) ∧
    b.offset = Text.utf8Size front ∧ (∀ c ∈ gap, isSpace c = true) ∧ '\n' ∉ gap

/-- An opening fence at `front` without a name: there is nothing but the blanks `line` behind it on
its line, and `below` is what follows the line. -/
structure UnnamedFence (t front line below : Text) : Prop where
  /-- The fence stands in the text. -/
  text : t = front ++ (opening ++ (line ++ '\n' :: below))
  /-- There are only blanks behind it. -/
  blank : ∀ c ∈ line, isSpace c = true
  /-- They are on its line. -/
  one_line : '\n' ∉ line

/-- Does a text look as if it had a name: does it begin, behind blanks, with a word that is alone up to
the end of its line, and has it a fence somewhere behind? -/
def LooksNamed (below : Text) : Prop :=
  ∃ blanks name rest, (∀ c ∈ blanks, isSpace c = true) ∧ IsName name ∧ fence <:+: rest ∧
    below = blanks ++ (name ++ '\n' :: rest)

/-- The blanks behind a fence without a name go on below its line. -/
theorem UnnamedFence.takeWhile_line {t front line below : Text} (h : UnnamedFence t front line below) :
    (line ++ '\n' :: below).takeWhile isSpace = line ++ '\n' :: below.takeWhile isSpace ∧
      (line ++ '\n' :: below).dropWhile isSpace = below.dropWhile isSpace := by
  have hline : isSpace '\n' = true := by decide
  rw [List.takeWhile_append_of_pos h.blank, List.dropWhile_append_of_pos h.blank,
    List.takeWhile_cons_of_pos hline, List.dropWhile_cons_of_pos hline]
  exact ⟨rfl, rfl⟩

/-- At a fence without a name a block can be read when the text below looks as if it had one. -/
theorem UnnamedFence.exists_read_iff {t front line below : Text}
    (h : UnnamedFence t front line below) (before : Option Char) :
    (∃ p, reader before (opening ++ (line ++ '\n' :: below)) = some p) ↔ LooksNamed below := by
  obtain ⟨-, hdrop⟩ := h.takeWhile_line
  constructor
  · rintro ⟨⟨⟨name, body⟩, rest⟩, hread⟩
    obtain ⟨gap, -, hgap, hne, hword, -, hform⟩ := reader_eq_some_iff.mp hread
    have htail : line ++ '\n' :: below = gap ++ (name ++ '\n' :: (body ++ (fence ++ rest))) :=
      List.append_cancel_left hform
    obtain ⟨-, hname⟩ := takeWhile_append_name hgap ⟨hne, hword⟩ _
    rw [← htail, hdrop] at hname
    refine ⟨below.takeWhile isSpace, name, body ++ (fence ++ rest), ?_, ⟨hne, hword⟩,
      ⟨body, rest, List.append_assoc _ _ _⟩, ?_⟩
    · exact fun c hc => List.mem_takeWhile_imp hc
    · rw [← hname, List.takeWhile_append_dropWhile]
  · rintro ⟨blanks, name, rest, hblanks, ⟨hne, hword⟩, hfence, rfl⟩
    obtain ⟨body, rest, rfl, hfirst⟩ := Text.exists_first_of_infix (by decide) hfence
    refine ⟨((name, body), rest), reader_eq_some_iff.mpr
      ⟨line ++ '\n' :: blanks, by simp, ?_, hne, hword, hfirst, by simp [opening]⟩⟩
    intro c hc
    rcases List.mem_append.mp hc with hc | hc
    · exact h.blank c hc
    rcases List.mem_cons.mp hc with rfl | hc
    · decide
    · exact hblanks c hc

/-- **A fence without a name is read as the beginning of a block** exactly when the scan gets there and
the text below it looks as if it had a name. -/
theorem UnnamedFence.exists_block_iff {t front line below : Text}
    (h : UnnamedFence t front line below) :
    (∃ b ∈ ofText t, b.offset = Text.utf8Size front) ↔ Reached t front ∧ LooksNamed below := by
  rw [h.text, exists_at_iff, h.exists_read_iff, and_comm]

/-- The name of a block is on the line of its fence when there is no line feed in front of it. -/
theorem namedOnLine_of_text {t front gap rest : Text} {b : QueryBlock}
    (ht : t = front ++ (opening ++ (gap ++ (b.name ++ rest)))) (hoffset : b.offset = Text.utf8Size front)
    (hgap : ∀ c ∈ gap, isSpace c = true) (hname : IsName b.name) :
    NamedOnLine t b ↔ '\n' ∉ gap := by
  refine ⟨?_, fun hline => ⟨front, gap, rest, ht, hoffset, hgap, hline⟩⟩
  rintro ⟨front', gap', rest', ht', hoffset', hgap', hline⟩
  obtain ⟨rfl, hback⟩ := Text.append_inj_of_utf8Size_eq (ht'.symm.trans ht) (hoffset'.symm.trans hoffset)
  have htail := List.append_cancel_left hback
  have htake := (takeWhile_append_name hgap' hname rest').1
  rw [htail, (takeWhile_append_name hgap hname _).1] at htake
  exact htake ▸ hline

/-- A block at a fence without a name does not have its name on the line of the fence. -/
theorem UnnamedFence.not_namedOnLine {t front line below : Text} (h : UnnamedFence t front line below)
    {b : QueryBlock} (hb : b ∈ ofText t) (hoffset : b.offset = Text.utf8Size front) :
    ¬NamedOnLine t b := by
  obtain ⟨front', gap, rest, ht, hoffset', hgap, hname⟩ := exists_text_of_mem hb
  obtain ⟨rfl, hback⟩ :=
    Text.append_inj_of_utf8Size_eq (h.text.symm.trans ht) (hoffset.symm.trans hoffset')
  have htake := (takeWhile_append_name hgap hname rest).1
  rw [← List.append_cancel_left hback, h.takeWhile_line.1] at htake
  rw [namedOnLine_of_text ht hoffset hgap hname, not_not, ← htake]
  exact List.mem_append_right line List.mem_cons_self

/-- A block whose name is not on the line of its fence stands at a fence without a name. -/
theorem exists_unnamedFence {t : Text} {b : QueryBlock} (hb : b ∈ ofText t) (h : ¬NamedOnLine t b) :
    ∃ front line below, UnnamedFence t front line below ∧ b.offset = Text.utf8Size front := by
  obtain ⟨front, gap, rest, ht, hoffset, hgap, hname⟩ := exists_text_of_mem hb
  rw [namedOnLine_of_text ht hoffset hgap hname, not_not] at h
  obtain ⟨line, blanks, rfl, hline⟩ := List.eq_append_cons_of_mem h
  refine ⟨front, line, blanks ++ (b.name ++ rest), ⟨?_, ?_, hline⟩, hoffset⟩
  · rw [ht, List.append_assoc, List.cons_append]
  · exact fun c hc => hgap c (List.mem_append_left _ hc)

/-- **When fences without a name are passed over.** The names of all blocks of a text are on the lines
of their fences exactly when no fence without a name that the scan gets to has a text below it that
looks as if it had a name: behind blanks, a word that is alone up to the end of its line, and a fence
somewhere behind it. A block begins at a fence without a name in that case, and in no other. -/
theorem namedOnLine_iff (t : Text) :
    ((∀ b ∈ ofText t, NamedOnLine t b) ↔
      ∀ front line below, UnnamedFence t front line below → Reached t front → ¬LooksNamed below) ∧
    ∀ front line below, UnnamedFence t front line below →
      ((∃ b ∈ ofText t, b.offset = Text.utf8Size front) ↔ Reached t front ∧ LooksNamed below) := by
  refine ⟨⟨?_, ?_⟩, fun front line below h => h.exists_block_iff⟩
  · intro hnamed front line below h hreached hlooks
    obtain ⟨b, hb, hoffset⟩ := h.exists_block_iff.mpr ⟨hreached, hlooks⟩
    exact h.not_namedOnLine hb hoffset (hnamed b hb)
  · intro hclean b hb
    by_contra hnot
    obtain ⟨front, line, below, h, hoffset⟩ := exists_unnamedFence hb hnot
    obtain ⟨hreached, hlooks⟩ := h.exists_block_iff.mp ⟨b, hb, hoffset⟩
    exact hclean front line below h hreached hlooks

/-- A fence without a name whose SQL goes on behind its first word is passed over. -/
theorem namedOnLine_iff_passed :
    let below : Text := "SELECT 1\n```\n".toList
    let t : Text := "```sql \nSELECT 1\n```\n".toList
    UnnamedFence t [] [' '] below ∧ ¬LooksNamed below ∧ ¬∃ b ∈ ofText t, b.offset = 0 := by
  intro below t
  have h : UnnamedFence t [] [' '] below :=
    ⟨rfl, List.forall_mem_singleton.mpr (by decide), by decide⟩
  have hlooks : ¬LooksNamed below := by
    have hread : reader none (opening ++ ([' '] ++ '\n' :: below)) = none := by decide +kernel
    rw [← h.exists_read_iff none, hread]
    rintro ⟨p, hp⟩
    cases hp
  refine ⟨h, hlooks, ?_⟩
  intro hblock
  exact hlooks (((namedOnLine_iff t).2 [] [' '] below h).mp hblock).2

/-- A fence without a name whose SQL has its first word alone on a line begins a block all the same:
the word is taken for the name. -/
theorem ofText_unnamedFence :
    let below : Text := "SELECT\n  1\n```\n".toList
    let t : Text := "```sql\nSELECT\n  1\n```\n".toList
    let b : QueryBlock := ⟨"SELECT".toList, "  1\n".toList, 0⟩
    UnnamedFence t [] [] below ∧ ofText t = [b] ∧ ¬NamedOnLine t b := by
  intro below t b
  have h : UnnamedFence t [] [] below := ⟨rfl, List.forall_mem_nil _, by decide⟩
  have hblocks : ofText t = [b] := by decide +kernel
  exact ⟨h, hblocks, h.not_namedOnLine (hblocks ▸ List.mem_cons_self) rfl⟩

end PageLint.QueryBlock
