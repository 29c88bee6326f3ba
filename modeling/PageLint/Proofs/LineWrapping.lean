import Mathlib.Data.List.Chain
import PageLint.Proofs.FindingGroups
import PageLint.Proofs.Splitting

/-!
# Wrapped messages

A text is wrapped word by word. A line is begun with a word and takes further words as long as they
fit, each behind a space, so the lines of a text are rows of its words that are put together
(`Text.Wraps`). A row is ended by the first word that does not fit, which begins the next one.

In a report the lines of a message stand behind the sign of the finding and its rule. Together with
them they are as wide as the report, if there is room for twenty characters and no word is longer
than the room.

## Main results

* `Text.wraps_wrap`: the lines of a text, as rows of words.
* `Report.words_printed`, `Report.length_le_of_mem_printed`: what is printed of a finding.
* `LintResult.wrapped_report`: **wrapping is lossless, greedy and bounded**, and so are the messages
  in a report.
-/

namespace PageLint

namespace Text

/-! ### Rows of words -/

/-- The line that some words give. -/
abbrev lineOf (row : List Text) : Text := join [' '] row

/-- A word is put behind a line. -/
theorem lineOf_concat {row : List Text} (hrow : row ≠ []) (word : Text) :
    lineOf (row ++ [word]) = lineOf row ++ ' ' :: word :=
  join_append hrow (List.cons_ne_nil word [])

/-- Are the words broken greedily into rows whose lines have `width` characters? -/
structure Wraps (width : Nat) (words : List Text) (rows : List (List Text)) : Prop where
  /-- The words of the rows are the words, in order. -/
  flatten_eq : rows.flatten = words
  /-- No row is empty. -/
  ne_nil : ∀ row ∈ rows, row ≠ []
  /-- The line of several words fits. -/
  fits : ∀ row ∈ rows, 2 ≤ row.length → (lineOf row).length ≤ width
  /-- A line ends where the next word does not fit. -/
  greedy : rows.IsChain fun row next =>
    ∀ word, next.head? = some word → width < (lineOf row).length + 1 + word.length

variable {width : Nat}

/-- A line that is begun with some words which fit goes on with further words, up to the first one
that does not fit. -/
theorem exists_wraps (words : List Text) {row : List Text} (hrow : row ≠ [])
    (hfits : 2 ≤ row.length → (lineOf row).length ≤ width) :
    ∃ more rows, Wraps width (row ++ words) ((row ++ more) :: rows) ∧
      wrapFrom width (lineOf row) words = ((row ++ more) :: rows).map lineOf := by
  induction words generalizing row with
  | nil =>
      refine ⟨[], [], ⟨?_, ?_, ?_, List.IsChain.singleton _⟩, ?_⟩
      · simp
      · simpa using hrow
      · simpa using hfits
      · simp [wrapFrom]
  | cons word words ih =>
      rw [wrapFrom]
      split
      · next hle =>
        have hlonger : (lineOf (row ++ [word])).length ≤ width := by
          rw [lineOf_concat hrow, List.length_append, List.length_cons]
          omega
        obtain ⟨more, rows, hwraps, heq⟩ := ih (List.append_ne_nil_of_left_ne_nil hrow [word])
          fun _ => hlonger
        rw [← lineOf_concat hrow, heq]
        simp only [List.append_assoc, List.singleton_append] at hwraps ⊢
        exact ⟨word :: more, rows, hwraps, rfl⟩
      · next hgt =>
        obtain ⟨more, rows, hwraps, heq⟩ := ih (List.cons_ne_nil word []) (by simp)
        refine ⟨[], ([word] ++ more) :: rows, ⟨?_, ?_, ?_, ?_⟩, ?_⟩
        · rw [List.flatten_cons, hwraps.flatten_eq, List.append_nil]
          rfl
        · exact List.forall_mem_cons.mpr ⟨by simpa using hrow, hwraps.ne_nil⟩
        · exact List.forall_mem_cons.mpr ⟨by simpa using hfits, hwraps.fits⟩
        · refine List.isChain_cons_cons.mpr ⟨?_, hwraps.greedy⟩
          rintro next hnext
          obtain rfl := Option.some.inj hnext
          rw [List.append_nil]
          omega
        · change _ :: wrapFrom width (lineOf [word]) words = _
          rw [heq, List.append_nil]
          rfl

/-- **The lines of a text** are the rows of its words: each is put together of the words that it has. -/
theorem wraps_wrap {t : Text} (h : words t ≠ []) (width : Nat) :
    Wraps width (words t) ((wrap t width).map words) ∧
      ∀ line ∈ wrap t width, lineOf (words line) = line := by
  obtain ⟨word, ws, hws⟩ := List.exists_cons_of_ne_nil h
  have hfits : 2 ≤ [word].length → (lineOf [word]).length ≤ width := by simp
  obtain ⟨more, rows, hwraps, heq⟩ := exists_wraps ws (List.cons_ne_nil word []) hfits
  have hwrap : wrap t width = (([word] ++ more) :: rows).map lineOf := by
    rw [wrap, hws, ← heq]
    rfl
  rw [List.singleton_append, ← hws] at hwraps
  have hread : ∀ row ∈ ([word] ++ more) :: rows, words (lineOf row) = row := fun row hrow =>
    words_join_of_isOneWord (by decide) (List.forall_mem_singleton.mpr (by decide)) fun w hw =>
      isOneWord_of_mem_words (hwraps.flatten_eq ▸ List.mem_flatten.mpr ⟨row, hrow, hw⟩)
  have hrows : (wrap t width).map words = ([word] ++ more) :: rows := by
    rw [hwrap, List.map_map]
    exact (List.map_congr_left hread).trans (List.map_id _)
  refine ⟨hrows ▸ hwraps, fun line hline => ?_⟩
  rw [hwrap] at hline
  obtain ⟨row, hrow, rfl⟩ := List.mem_map.mp hline
  rw [hread row hrow]

/-- A text without words has one line, which is empty. -/
theorem wrap_eq_of_words_eq_nil {t : Text} (h : words t = []) (width : Nat) : wrap t width = [[]] := by
  rw [wrap, h, wrapWords]

/-- There is a line for every text. -/
theorem wrap_ne_nil (t : Text) (width : Nat) : wrap t width ≠ [] := by
  by_cases h : words t = []
  · rw [wrap_eq_of_words_eq_nil h]
    exact List.cons_ne_nil _ _
  · intro hnil
    have hflatten := (wraps_wrap h width).1.flatten_eq
    rw [hnil] at hflatten
    exact h hflatten.symm

/-- No word is lost, and the words stay in their order. -/
theorem flatMap_words_wrap (t : Text) (width : Nat) : (wrap t width).flatMap words = words t := by
  by_cases h : words t = []
  · rw [wrap_eq_of_words_eq_nil h, h]
    rfl
  · exact (wraps_wrap h width).1.flatten_eq

/-- A line of a text with words has a word. -/
theorem words_ne_nil_of_mem_wrap {t line : Text} {width : Nat} (h : words t ≠ [])
    (hline : line ∈ wrap t width) : words line ≠ [] :=
  (wraps_wrap h width).1.ne_nil _ (List.mem_map_of_mem hline)

/-- A line is longer than the width only if it is one word. -/
theorem length_le_of_mem_wrap {t line : Text} {width : Nat} (hline : line ∈ wrap t width)
    (htwo : 2 ≤ (words line).length) : line.length ≤ width := by
  by_cases h : words t = []
  · rw [wrap_eq_of_words_eq_nil h] at hline
    obtain rfl := List.mem_singleton.mp hline
    exact Nat.zero_le _
  · obtain ⟨hwraps, hlines⟩ := wraps_wrap h width
    have hfits := hwraps.fits _ (List.mem_map_of_mem hline) htwo
    rwa [hlines line hline] at hfits

/-- A line ends where the first word of the next one does not fit. -/
theorem isChain_wrap (t : Text) (width : Nat) : (wrap t width).IsChain fun line next =>
    ∀ word, (words next).head? = some word → width < line.length + 1 + word.length := by
  by_cases h : words t = []
  · rw [wrap_eq_of_words_eq_nil h]
    exact List.IsChain.singleton _
  · obtain ⟨hwraps, hlines⟩ := wraps_wrap h width
    refine ((List.isChain_map words).mp hwraps.greedy).imp_of_mem_imp fun line next hline _ hend => ?_
    rwa [hlines line hline] at hend

/-- If no word is longer than the width, no line is. -/
theorem length_le_of_forall_words {t : Text} {width : Nat}
    (h : ∀ word ∈ words t, word.length ≤ width) : ∀ line ∈ wrap t width, line.length ≤ width := by
  intro line hline
  by_cases hwords : words t = []
  · rw [wrap_eq_of_words_eq_nil hwords] at hline
    obtain rfl := List.mem_singleton.mp hline
    exact Nat.zero_le _
  · by_cases htwo : 2 ≤ (words line).length
    · exact length_le_of_mem_wrap hline htwo
    · have hpos := List.length_pos_iff.mpr (words_ne_nil_of_mem_wrap hwords hline)
      obtain ⟨word, hword⟩ := List.length_eq_one_iff.mp (by omega : (words line).length = 1)
      have hmem : word ∈ words t := by
        rw [← flatMap_words_wrap t width]
        exact List.mem_flatMap.mpr ⟨line, hline, hword ▸ List.mem_cons_self⟩
      rw [← (wraps_wrap hwords width).2 line hline, hword]
      exact h word hmem

end Text

/-! ### Messages in a report -/

namespace Report

/-- What stands in front of a message: the sign of the severity and the rule. -/
def mark (f : Finding) : Text :=
  ("  " ++ (icon f.severity).text ++ " [" ++ f.rule ++ "] ").toList

/-- A mark is as long as the indent of the lines below it. -/
theorem length_mark (f : Finding) : (mark f).length = indent f.rule := by
  cases hseverity : f.severity <;>
    simp [mark, indent, icon, hseverity, Span.styled, String.length_toList]

/-- What is between two lines of a message. -/
def lineBreak (rule : String) : Text := '\n' :: List.replicate (indent rule) ' '

/-- The lines below the first one, each ended, are each begun with a line end. -/
theorem flatMap_furtherLines (rule : String) (lines : List Text) :
    ['\n'] ++ lines.flatMap (fun l => List.replicate (indent rule) ' ' ++ l ++ ['\n']) =
      lines.flatMap (lineBreak rule ++ ·) ++ ['\n'] := by
  induction lines with
  | nil => rfl
  | cons line lines ih =>
      rw [List.flatMap_cons, List.flatMap_cons, List.append_assoc (lineBreak rule ++ line), ← ih,
        lineBreak]
      simp only [List.append_assoc, List.cons_append, List.nil_append]

/-- What is printed of a finding: its mark, and the lines of its message below one another. -/
theorem toList_findingLines (f : Finding) :
    (findingLines f).flatMap (fun s => (s.render false).toList) =
      mark f ++ (Text.join (lineBreak f.rule) (messageLines f.rule f.message) ++ ['\n']) := by
  obtain ⟨first, rest, hlines⟩ :=
    List.exists_cons_of_ne_nil (Text.wrap_ne_nil f.message.toList (Nat.max (width - indent f.rule) 20))
  have hrest : ∀ l : Text, (line (String.ofList (List.replicate (indent f.rule) ' ') ++ l.str)).flatMap
      (fun s => (s.render false).toList) = List.replicate (indent f.rule) ' ' ++ l ++ ['\n'] := by
    intro l
    rw [flatMap_line, String.toList_append, String.toList_ofList, Text.str, String.toList_ofList]
  rw [findingLines, messageLines, hlines, List.flatMap_append, List.flatMap_assoc, Text.join_cons,
    List.append_assoc, ← flatMap_furtherLines]
  simp only [hrest]
  simp [mark, Span.render_false, Span.plain, Span.styled, Span.newline, Text.str]

/-- Behind a beginning that is as long as the blanks before further lines, no line is longer than the
blanks and the longest of the lines. -/
theorem length_le_of_mem_splitOn_lines {rule : String} {bound : Nat} {lines : List Text}
    (hlines : ∀ line ∈ lines, line.length ≤ bound) {front : Text}
    (hfront : front.length ≤ indent rule) :
    ∀ line ∈ Text.splitOn '\n' (front ++ Text.join (lineBreak rule) lines),
      line.length ≤ indent rule + bound := by
  induction lines generalizing front with
  | nil =>
      intro line hline
      have hle := Text.length_le_of_mem_splitOn hline
      rw [Text.join, List.append_nil] at hle
      omega
  | cons first lines ih =>
      obtain ⟨hfirst, hlines⟩ := List.forall_mem_cons.mp hlines
      have hhead : ∀ line ∈ Text.splitOn '\n' (front ++ first), line.length ≤ indent rule + bound := by
        intro line hline
        have hle := Text.length_le_of_mem_splitOn hline
        rw [List.length_append] at hle
        omega
      cases lines with
      | nil => exact hhead
      | cons next lines =>
          rw [Text.join_cons_cons, List.append_assoc, ← List.append_assoc front, lineBreak,
            List.cons_append, Text.splitOn_append_cons]
          have hindent : (List.replicate (indent rule) ' ').length ≤ indent rule := by simp
          have htail := ih hlines hindent
          exact List.forall_mem_append.mpr ⟨hhead, htail⟩

/-- Is the finding printed in a report on lines of at most `bound` characters? Its mark stands at the
beginning of a line, and up to the end of a line there are only the words of its message, with blanks
between them. -/
def PrintsWithin (bound : Nat) (report : Text) (f : Finding) : Prop :=
  ∃ before printed after, report = before ++ (mark f ++ printed) ++ '\n' :: after ∧
    before.getLast? = some '\n' ∧ Text.words printed = Text.words f.message.toList ∧
    ∀ line ∈ Text.splitOn '\n' (mark f ++ printed), line.length ≤ bound

/-- The words behind the mark of a finding are those of its message. -/
theorem words_printed (f : Finding) :
    Text.words (Text.join (lineBreak f.rule) (messageLines f.rule f.message)) =
      Text.words f.message.toList := by
  have hblank : ∀ c ∈ lineBreak f.rule, isSpace c = true := by
    refine List.forall_mem_cons.mpr ⟨by decide, fun c hc => ?_⟩
    rw [List.eq_of_mem_replicate hc]
    decide
  have hne : lineBreak f.rule ≠ [] := List.cons_ne_nil _ _
  rw [Text.words_join hne hblank, messageLines, Text.flatMap_words_wrap]

/-- A finding is printed within the width of a report if the identifier of its rule has 41 characters
at most and each word of its message fits behind it. -/
theorem length_le_of_mem_printed {f : Finding} (hrule : f.rule.length ≤ 41)
    (hwords : ∀ word ∈ Text.words f.message.toList, word.length ≤ 61 - f.rule.length) :
    ∀ line ∈ Text.splitOn '\n'
        (mark f ++ Text.join (lineBreak f.rule) (messageLines f.rule f.message)),
      line.length ≤ width := by
  have hroom : Nat.max (width - indent f.rule) 20 = 61 - f.rule.length := by
    change max (68 - (f.rule.length + 7)) 20 = _
    omega
  have hlines : ∀ line ∈ messageLines f.rule f.message, line.length ≤ 61 - f.rule.length := by
    rw [messageLines, hroom]
    exact Text.length_le_of_forall_words hwords
  have hsum : indent f.rule + (61 - f.rule.length) = width := by
    rw [width, indent]
    omega
  exact hsum ▸ length_le_of_mem_splitOn_lines hlines (Nat.le_of_eq (length_mark f))

end Report

/-- A text that ends a line still does so when texts which do are put behind it. -/
theorem Text.getLast?_append_flatMap {α : Type} {t : Text} {part : α → Text} {l : List α}
    (ht : t.getLast? = some '\n') (hpart : ∀ a ∈ l, (part a).getLast? = some '\n') :
    (t ++ l.flatMap part).getLast? = some '\n' := by
  induction l generalizing t with
  | nil => rwa [List.flatMap_nil, List.append_nil]
  | cons a l ih =>
      obtain ⟨ha, hl⟩ := List.forall_mem_cons.mp hpart
      rw [List.flatMap_cons, ← List.append_assoc]
      refine ih ?_ hl
      rw [List.getLast?_append, ha, Option.some_or]

namespace LintResult

open Report

/-- The lines of a finding are in a report, behind the heading of its file and the lines of other
findings. -/
theorem exists_report_spans (r : LintResult) (strict : Bool) {f : Finding} (hf : f ∈ r.findings) :
    ∃ (before : List Span) (others : List Finding) (after : List Span), r.report strict =
      before ++ .newline :: (others.flatMap findingLines ++ (findingLines f ++ after)) := by
  obtain ⟨opening, closing, hreport⟩ := exists_report_eq r.summary strict r.findings.isEmpty
  have hgroup : (f.file, r.findings.filter (·.file == f.file)) ∈ Finding.groups r.findings :=
    List.mem_map.mpr ⟨f.file, Ascending.mem_ofList_iff.mpr (List.mem_map_of_mem hf), rfl⟩
  have hmem : f ∈ r.findings.filter (·.file == f.file) := List.mem_filter.mpr ⟨hf, by simp⟩
  obtain ⟨groups, groups', hgroups⟩ := List.append_of_mem hgroup
  obtain ⟨others, others', hothers⟩ := List.append_of_mem hmem
  refine ⟨opening ++ (groups.flatMap fileLines ++ [.newline, .styled .bold f.file]), others,
    others'.flatMap findingLines ++ (groups'.flatMap fileLines ++ closing), ?_⟩
  refine (hreport r.findings rfl).trans ?_
  rw [hgroups, hothers, List.flatMap_append, List.flatMap_cons, fileLines, List.flatMap_append,
    List.flatMap_cons]
  simp only [List.append_assoc, List.cons_append, List.nil_append]

/-- The lines of a finding begin behind a line end, and one ends them. -/
theorem exists_report_text (r : LintResult) (strict : Bool) {f : Finding} (hf : f ∈ r.findings) :
    ∃ before after : Text, (Styled.render false (r.report strict)).toList =
      before ++ (mark f ++ Text.join (lineBreak f.rule) (messageLines f.rule f.message)) ++
        '\n' :: after ∧ before.getLast? = some '\n' := by
  obtain ⟨before, others, after, hreport⟩ := r.exists_report_spans strict hf
  refine ⟨before.flatMap (fun s => (s.render false).toList) ++ ['\n'] ++
    others.flatMap fun g => (findingLines g).flatMap fun s => (s.render false).toList,
    after.flatMap fun s => (s.render false).toList, ?_, ?_⟩
  · have hnewline : (Span.newline.render false).toList = ['\n'] := rfl
    rw [Styled.toList_render, hreport, List.flatMap_append, List.flatMap_cons, hnewline]
    simp only [List.flatMap_append, List.flatMap_assoc, toList_findingLines, List.append_assoc,
      List.cons_append, List.nil_append]
  · refine Text.getLast?_append_flatMap List.getLast?_concat fun g _ => ?_
    rw [toList_findingLines, ← List.append_assoc, List.getLast?_concat]

/-- **Wrapping is lossless, greedy and bounded.** The words of the lines are those of the text, in order;
no line is empty, but a text without words has one empty line; a line is longer than the width only if
it is one word; and a line ends where the first word of the next one does not fit. So in a report
without colours each finding whose rule has at most 41 characters, and whose message has no word that
is longer than the room behind it, is printed on lines of at most 68 characters, from which the words
of its message are read back. -/
theorem wrapped_report :
    (∀ (t : Text) (width : Nat),
      (Text.wrap t width).flatMap Text.words = Text.words t ∧
      (Text.words t = [] → Text.wrap t width = [[]]) ∧
      (Text.words t ≠ [] → [] ∉ Text.wrap t width) ∧
      (∀ line ∈ Text.wrap t width, 2 ≤ (Text.words line).length → line.length ≤ width) ∧
      (Text.wrap t width).IsChain fun line next =>
        ∀ word, (Text.words next).head? = some word → width < line.length + 1 + word.length) ∧
    ∀ (r : LintResult) (strict : Bool), ∀ f ∈ r.findings, f.rule.length ≤ 41 →
      (∀ word ∈ Text.words f.message.toList, word.length ≤ 61 - f.rule.length) →
      PrintsWithin 68 (Styled.render false (r.report strict)).toList f := by
  refine ⟨fun t width => ⟨?_, ?_, ?_, ?_, ?_⟩, ?_⟩
  · exact Text.flatMap_words_wrap t width
  · exact fun h => Text.wrap_eq_of_words_eq_nil h width
  · exact fun h hmem => Text.words_ne_nil_of_mem_wrap h hmem rfl
  · exact fun line => Text.length_le_of_mem_wrap
  · exact Text.isChain_wrap t width
  · intro r strict f hf hrule hwords
    obtain ⟨before, after, htext, hbefore⟩ := r.exists_report_text strict hf
    exact ⟨before, _, after, htext, hbefore, words_printed f, length_le_of_mem_printed hrule hwords⟩

/-- A text with a word that is longer than a line, and a finding whose message has a word that just
fits behind its rule. -/
theorem wrapped_report_longWords :
    let t : Text := "at Swargate to go".toList
    let f : Finding := (Notice.error "SQL_DEPOT_NAME"
      "₹ per km of the depots in 'PuneStation_and_Swargate_and_Katraj_or_Nigadi' is not grouped").inFile
      "pages/cost.md"
    let r : LintResult := ⟨[f], ⟨1, 0, 1, 0⟩⟩
    Text.words t ≠ [] ∧ Text.wrap t 5 = ["at".toList, "Swargate".toList, "to go".toList] ∧
      [] ∉ Text.wrap t 5 ∧ f ∈ r.findings ∧ f.rule.length ≤ 41 ∧
      (∀ word ∈ Text.words f.message.toList, word.length ≤ 61 - f.rule.length) ∧
      (messageLines f.rule f.message).length = 3 ∧
      PrintsWithin 68 (Styled.render false (r.report true)).toList f := by
  intro t f r
  have ht : Text.words t ≠ [] := by decide
  have hf : f ∈ r.findings := List.mem_singleton_self f
  have hrule : f.rule.length ≤ 41 := by decide
  have hwords : ∀ word ∈ Text.words f.message.toList, word.length ≤ 61 - f.rule.length := by decide
  exact ⟨ht, by decide, (wrapped_report.1 t 5).2.2.1 ht, hf, hrule, hwords, by decide,
    wrapped_report.2 r true f hf hrule hwords⟩

end LintResult

end PageLint
