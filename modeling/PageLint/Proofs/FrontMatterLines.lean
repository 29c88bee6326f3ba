import PageLint.Markup.FrontMatter
import PageLint.Proofs.Scanning
import PageLint.Proofs.Splitting

/-!
# The lines of front matter

The front matter of a page is found as the shortest text behind the opening line that is followed by
a line break and `---`. Here it is described by the lines of the page. A line break followed by
`---` is the beginning of a line other than the first (`Text.infix_cons_iff`), so the block is closed
by the first line that begins with `---`, where the line directly behind the opening one is not
looked at: no line break stands between the two that could belong to the block. That line is the
first of the block, whatever it is.

## Main results

* `FrontMatter.split_eq_some_iff_lines`: the front matter and the body, line by line.
* `FrontMatter.split_fences`: **the block holds no line that begins with a fence**, unless the line
  behind the opening one does.
-/

namespace PageLint

/-! ### Fences -/

namespace FrontMatter

/-- Does the line begin with a fence? -/
def IsFence (line : Text) : Prop := ['-', '-', '-'] <+: line

instance : DecidablePred IsFence := fun line =>
  inferInstanceAs (Decidable (['-', '-', '-'] <+: line))

/-- What follows a line break, if the text begins with one. -/
def afterBreak : Text → Text
  | '\n' :: t => t
  | t => t

variable {t block body : Text}

/-- The front matter is the shortest text behind the opening line that a line break and a fence
follow. -/
theorem split_eq_some_iff : split t = (some block, body) ↔
    ∃ rest, t = ['-', '-', '-', '\n'] ++ (block ++ (['\n', '-', '-', '-'] ++ rest)) ∧
      ¬['\n', '-', '-', '-'] <:+: block ++ ['\n', '-', '-'] ∧ afterBreak rest = body := by
  have hclosing : ['\n', '-', '-', '-'] ≠ [] := List.cons_ne_nil _ _
  rw [split]
  cases hopen : Text.after? ['-', '-', '-', '\n'] t with
  | none =>
      simp only [Prod.mk.injEq, reduceCtorEq, false_and, false_iff]
      rintro ⟨rest, ht, -⟩
      rw [Text.after?_eq_some_iff.mpr ht] at hopen
      cases hopen
  | some inside =>
      obtain rfl := Text.after?_eq_some_iff.mp hopen
      simp only [List.append_cancel_left_eq]
      constructor
      · intro h
        split at h
        · cases h
        · next block' rest hsplit =>
          obtain ⟨hblock, rfl⟩ := Prod.mk.inj h
          obtain rfl := Option.some.inj hblock
          obtain ⟨hinside, hfirst⟩ := (Text.splitAt?_eq_some_iff hclosing).mp hsplit
          exact ⟨'\n' :: rest, hinside, hfirst, rfl⟩
        · next block' rest hne hsplit =>
          obtain ⟨hblock, rfl⟩ := Prod.mk.inj h
          obtain rfl := Option.some.inj hblock
          obtain ⟨hinside, hfirst⟩ := (Text.splitAt?_eq_some_iff hclosing).mp hsplit
          refine ⟨rest, hinside, hfirst, ?_⟩
          rw [afterBreak]
          rintro body rfl
          exact hne body rfl
      · rintro ⟨rest, hinside, hfirst, rfl⟩
        rw [(Text.splitAt?_eq_some_iff hclosing).mpr ⟨hinside, hfirst⟩]
        cases rest with
        | nil => rfl
        | cons c rest =>
            by_cases hc : c = '\n'
            · subst hc
              rfl
            · simp [afterBreak, hc]

/-- A line break and a fence occur in a block where one of its lines other than the first begins
with a fence. -/
theorem closing_infix_iff : ['\n', '-', '-', '-'] <:+: block ++ ['\n', '-', '-'] ↔
    ∃ line ∈ (Text.splitOn '\n' block).tail, IsFence line := by
  have hshort : ¬IsFence ['-', '-'] := by decide
  rw [Text.infix_cons_iff (by decide), Text.splitOn_append_cons,
    List.tail_append_of_ne_nil (Text.splitOn_ne_nil '\n' block)]
  simp only [List.mem_append, or_and_right, exists_or]
  refine or_iff_left ?_
  rintro ⟨line, hline, hfence⟩
  obtain rfl := List.mem_singleton.mp hline
  exact hshort hfence

/-- The lines of a text with front matter: a fence alone, a line that belongs to the block whatever it
is, more lines of the block, the line that closes it and the lines below. -/
structure Lines (t second : Text) (between : List Text) (fence : Text) (below : List Text) :
    Prop where
  /-- The parts are the lines of the text. -/
  lines_eq : Text.splitOn '\n' t = ['-', '-', '-'] :: second :: (between ++ fence :: below)
  /-- The block goes on up to the first line that begins with a fence. -/
  not_isFence : ∀ line ∈ between, ¬IsFence line
  /-- It is closed by that line. -/
  isFence : IsFence fence

/-- The lines of the body: what the closing line has behind its fence, if anything, and the lines
below it. -/
def bodyLines (fence : Text) (below : List Text) : List Text :=
  if fence = ['-', '-', '-'] then below else fence.drop 3 :: below

/-- Behind a closing fence the body begins with the rest of its line, if there is any, and with the next
line otherwise. -/
theorem afterBreak_eq {rest first : Text} {below : List Text}
    (h : Text.splitOn '\n' rest = first :: below) :
    afterBreak rest = Text.join ['\n'] (bodyLines (['-', '-', '-'] ++ first) below) := by
  have hrest := Text.join_splitOn '\n' rest
  cases rest with
  | nil =>
      obtain ⟨rfl, rfl⟩ := List.cons.inj h
      rfl
  | cons c rest =>
      by_cases hc : c = '\n'
      · subst hc
        rw [Text.splitOn, if_pos rfl] at h
        obtain ⟨rfl, rfl⟩ := List.cons.inj h
        exact (Text.join_splitOn '\n' rest).symm
      · have hfirst : first ≠ [] := by
          rintro rfl
          obtain ⟨piece, pieces, hpieces⟩ :=
            List.exists_cons_of_ne_nil (Text.splitOn_ne_nil '\n' rest)
          rw [Text.splitOn, if_neg hc, hpieces] at h
          cases h
        have hfence : ['-', '-', '-'] ++ first ≠ ['-', '-', '-'] := by simpa using hfirst
        have hdrop : (['-', '-', '-'] ++ first).drop 3 = first := rfl
        rw [bodyLines, if_neg hfence, hdrop, ← h, hrest, afterBreak]
        rintro body heq
        exact hc (List.cons.inj heq).1

/-- **The front matter, line by line.** A text has front matter if it begins with a fence on a line of
its own, another line follows, and some line behind that begins with a fence; the first such line ends
the block. -/
theorem split_eq_some_iff_lines : split t = (some block, body) ↔
    ∃ second between fence below, Lines t second between fence below ∧
      Text.splitOn '\n' block = second :: between ∧
      body = Text.join ['\n'] (bodyLines fence below) := by
  have hlines : ∀ rest, Text.splitOn '\n'
      (['-', '-', '-', '\n'] ++ (block ++ (['\n', '-', '-', '-'] ++ rest))) =
        ['-', '-', '-'] ::
          (Text.splitOn '\n' block ++ Text.splitOn '\n' (['-', '-', '-'] ++ rest)) := by
    intro rest
    rw [← Text.splitOn_append_cons]
    exact Text.splitOn_append_cons '\n' ['-', '-', '-'] _
  obtain ⟨second, between, hblock⟩ := List.exists_cons_of_ne_nil (Text.splitOn_ne_nil '\n' block)
  rw [split_eq_some_iff]
  constructor
  · rintro ⟨rest, rfl, hfirst, rfl⟩
    obtain ⟨first, below, hrest⟩ := List.exists_cons_of_ne_nil (Text.splitOn_ne_nil '\n' rest)
    refine ⟨second, between, ['-', '-', '-'] ++ first, below, ⟨?_, ?_, List.prefix_append _ _⟩, hblock,
      afterBreak_eq hrest⟩
    · rw [hlines, hblock, Text.splitOn_append (by decide) hrest, List.cons_append]
    · intro line hline hfence
      exact hfirst (closing_infix_iff.mpr ⟨line, by rwa [hblock], hfence⟩)
  · rintro ⟨second', between', fence, below, ⟨heq, hnot, first, rfl⟩, hblock', rfl⟩
    obtain ⟨rfl, rfl⟩ := List.cons.inj (hblock.symm.trans hblock')
    have hmem : ∀ line ∈ first :: below, '\n' ∉ line := by
      have hline : ∀ line ∈ (['-', '-', '-'] ++ first) :: below, '\n' ∉ line := by
        intro line hline
        refine Text.notMem_of_mem_splitOn (t := t) ?_
        rw [heq]
        exact List.mem_cons_of_mem _ (List.mem_cons_of_mem _ (List.mem_append_right _ hline))
      obtain ⟨hfirst, hbelow⟩ := List.forall_mem_cons.mp hline
      exact List.forall_mem_cons.mpr ⟨fun h => hfirst (List.mem_append_right _ h), hbelow⟩
    have hrest := Text.splitOn_join (List.cons_ne_nil first below) hmem
    refine ⟨Text.join ['\n'] (first :: below), ?_, ?_, afterBreak_eq hrest⟩
    · refine Text.splitOn_inj (heq.trans ?_)
      rw [hlines, hblock, Text.splitOn_append (by decide) hrest]
      rfl
    · rw [closing_infix_iff, hblock, List.tail_cons]
      rintro ⟨line, hline, hfence⟩
      exact hnot line hline hfence

/-- **The block stops before the first fence** behind the line that follows the opening one. A text has
front matter exactly if its lines can be parted so; and the block holds no line that begins with a
fence exactly if the line directly behind the opening one does not begin with one. That line is the
first of the block in any case, so an empty block is not closed by it. -/
theorem split_fences (t : Text) :
    (∀ block body, split t = (some block, body) ↔
      ∃ second between fence below, Lines t second between fence below ∧
        Text.splitOn '\n' block = second :: between ∧
        body = Text.join ['\n'] (bodyLines fence below)) ∧
    ∀ block body, split t = (some block, body) →
      ((∀ line ∈ Text.splitOn '\n' block, ¬IsFence line) ↔
        ∀ line ∈ (Text.splitOn '\n' t)[1]?, ¬IsFence line) := by
  refine ⟨fun block body => split_eq_some_iff_lines, ?_⟩
  intro block body hsplit
  obtain ⟨second, between, fence, below, hlines, hblock, -⟩ := split_eq_some_iff_lines.mp hsplit
  rw [hblock, hlines.lines_eq, List.forall_mem_cons]
  simpa using fun _ => hlines.not_isFence

/-- An empty block is not closed by the fence behind the opening line. The block goes on to the next
rule of the body, and the heading between is taken as front matter. -/
theorem split_emptyBlock :
    let block : Text := "---\n# Depots".toList
    split "---\n---\n# Depots\n---\nTrips\n".toList = (some block, "Trips\n".toList) ∧
      ['-', '-', '-'] ∈ Text.splitOn '\n' block ∧ IsFence ['-', '-', '-'] := by
  decide +kernel

end FrontMatter

end PageLint
