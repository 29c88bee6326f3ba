import PageLint.Proofs.Ordering
import PageLint.Proofs.Splitting
import PageLint.Proofs.Verdicts

/-!
# Colours of reports

A report is printed with colours or without. With colours there are control sequences in it, each of
them an escape character, a bracket, digits and semicolons, and an `m` (`Rendition.IsSequence`). Where
they are deleted (`Styled.uncoloured`), what remains is the report without colours: a text that is
wrapped is wrapped before it gets its style, so no line is longer or shorter for it.

A deletion finds every sequence in a text, also one that stands in the name of a file or in a message.
For this reason the texts of the findings are to be without escape characters.

## Main results

* `Rendition.read?_eq_some_iff`: what is deleted.
* `Styled.uncoloured_render`: the deletion of colours from any spans.
* `LintResult.uncoloured_report`: **colour changes only colour**, for every report.
-/

namespace PageLint

open Text

/-! ### Control sequences -/

namespace Rendition

/-- May the character stand between the bracket and the `m` of a sequence? -/
def isCode (c : Char) : Bool := c.isDigit || c == ';'

/-- Is the text a control sequence that selects a rendition? -/
def IsSequence (s : Text) : Prop :=
  ∃ codes : Text, (∀ c ∈ codes, isCode c = true) ∧ s = '\x1b' :: '[' :: (codes ++ ['m'])

/-- Reads a control sequence that selects a rendition. -/
def read? : Reader Unit := fun _ t => do
  let rest ← after? ['\x1b', '['] t
  let ahead ← after? ['m'] (rest.dropWhile isCode)
  return ((), ahead)

variable {before : Option Char} {t ahead s : Text}

/-- **What is read** is a sequence at the head of the text. -/
theorem read?_eq_some_iff :
    read? before t = some ((), ahead) ↔ ∃ s, IsSequence s ∧ t = s ++ ahead := by
  simp only [read?, Option.bind_eq_bind, Option.bind_eq_some_iff, after?_eq_some_iff,
    Option.pure_def, Option.some.injEq, Prod.mk.injEq, true_and]
  constructor
  · rintro ⟨rest, rfl, ahead, hrest, rfl⟩
    refine ⟨_, ⟨rest.takeWhile isCode, fun c hc => List.mem_takeWhile_imp hc, rfl⟩, ?_⟩
    simp only [List.cons_append, List.append_assoc, ← hrest, List.takeWhile_append_dropWhile,
      List.nil_append]
  · rintro ⟨_, ⟨codes, hcodes, rfl⟩, rfl⟩
    have hend : ∀ c, ('m' :: ahead).head? = some c → isCode c = false := by
      rintro c hc
      obtain rfl := Option.some.inj hc
      rfl
    refine ⟨codes ++ 'm' :: ahead, by simp, ahead, ?_, rfl⟩
    rw [(takeWhile_dropWhile_append hcodes hend).2]
    rfl

/-- A sequence is not empty. -/
theorem IsSequence.ne_nil (h : IsSequence s) : s ≠ [] := by
  obtain ⟨codes, -, rfl⟩ := h
  exact List.cons_ne_nil _ _

/-- A sequence begins with an escape character. -/
theorem IsSequence.head_eq {c : Char} (h : IsSequence (c :: s)) : c = '\x1b' := by
  obtain ⟨codes, -, hs⟩ := h
  exact (List.cons.inj hs).1

/-- Nothing is read in front of another character than the escape character. -/
theorem read?_cons_of_ne {c : Char} (hc : c ≠ '\x1b') (t : Text) : read? before (c :: t) = none := by
  refine Option.eq_none_iff_forall_ne_some.mpr fun ⟨_, ahead⟩ hread => ?_
  obtain ⟨s, hs, hcons⟩ := read?_eq_some_iff.mp hread
  cases s with
  | nil => exact hs.ne_nil rfl
  | cons d s =>
      rw [List.cons_append] at hcons
      exact hc ((List.cons.inj hcons).1.trans hs.head_eq)

/-- The text without its control sequences. -/
def strip (t : Text) : Text := t.without read?

/-- A sequence in front of a text is deleted. -/
theorem IsSequence.strip_append (hs : IsSequence s) (t : Text) : strip (s ++ t) = strip t :=
  without_fragment_append (fun _ _ => rfl) hs.ne_nil (read?_eq_some_iff.mpr ⟨s, hs, rfl⟩)

/-- Text without escape characters in front of a text is left as it is. -/
theorem strip_append (hs : '\x1b' ∉ s) (t : Text) : strip (s ++ t) = s ++ strip t :=
  without_append (fun _ _ => rfl) (fun _ t hc => read?_cons_of_ne hc t) hs t

end Rendition

/-! ### Styles -/

namespace Style

/-- What selects a rendition is a control sequence. -/
theorem isSequence_sequence {code : String} (h : code.toList.all Rendition.isCode = true) :
    Rendition.IsSequence (sequence code).toList :=
  ⟨code.toList, List.all_eq_true.mp h, by simp [sequence]⟩

/-- What selects a colour is a control sequence. -/
theorem isSequence_colour (colour : Colour) :
    Rendition.IsSequence (sequence colour.code).toList := by
  cases colour <;> exact isSequence_sequence rfl

/-- What is written before a text of any style is deleted, and so is what is written after it. -/
theorem strip_marks (style : Style) (t : Text) :
    Rendition.strip (style.marks.1.toList ++ t) = Rendition.strip t ∧
      Rendition.strip (style.marks.2.toList ++ t) = Rendition.strip t := by
  have hreset : Rendition.IsSequence (sequence "0").toList := isSequence_sequence rfl
  cases style with
  | bold => exact ⟨(isSequence_sequence rfl).strip_append t, hreset.strip_append t⟩
  | dimmed => exact ⟨(isSequence_sequence rfl).strip_append t, hreset.strip_append t⟩
  | italic => exact ⟨(isSequence_sequence rfl).strip_append t, hreset.strip_append t⟩
  | coloured colour => exact ⟨(isSequence_colour colour).strip_append t, hreset.strip_append t⟩
  | strong colour =>
      have hbold : Rendition.IsSequence (sequence "1").toList := isSequence_sequence rfl
      have hleave : Rendition.IsSequence (sequence "39").toList := isSequence_sequence rfl
      simp only [marks, String.toList_append, List.append_assoc]
      rw [hbold.strip_append, (isSequence_colour colour).strip_append, hleave.strip_append,
        hreset.strip_append]
      exact ⟨rfl, rfl⟩

end Style

/-! ### Spans -/

/-- Is the text of the span without escape characters? -/
def Span.HasNoEscape (s : Span) : Prop := '\x1b' ∉ s.text.toList

instance (s : Span) : Decidable s.HasNoEscape := inferInstanceAs (Decidable ('\x1b' ∉ s.text.toList))

/-- Where a span is written with its style, the deletion leaves its text. -/
theorem Span.strip_render {s : Span} (h : s.HasNoEscape) (t : Text) :
    Rendition.strip ((s.render true).toList ++ t) = s.text.toList ++ Rendition.strip t := by
  obtain ⟨text, style⟩ := s
  cases style with
  | none => exact Rendition.strip_append h t
  | some style =>
      have htext : (render true ⟨text, some style⟩).toList ++ t =
          style.marks.1.toList ++ (text.toList ++ (style.marks.2.toList ++ t)) := by
        have hrender : render true ⟨text, some style⟩ = style.marks.1 ++ text ++ style.marks.2 := rfl
        rw [hrender, String.toList_append, String.toList_append, List.append_assoc,
          List.append_assoc]
      rw [htext, (style.strip_marks _).1, Rendition.strip_append h, (style.strip_marks _).2]

/-- The text without colours. -/
def Styled.uncoloured (s : String) : String := String.ofList (Rendition.strip s.toList)

/-- **The deletion of colours from any spans** leaves the spans as they are written without
colours. -/
theorem Styled.uncoloured_render {spans : List Span} (h : ∀ s ∈ spans, s.HasNoEscape) :
    uncoloured (render true spans) = render false spans := by
  rw [uncoloured, ← String.toList_inj, String.toList_ofList, toList_render, toList_render]
  induction spans with
  | nil => rfl
  | cons s spans ih =>
      obtain ⟨hs, hspans⟩ := List.forall_mem_cons.mp h
      rw [List.flatMap_cons, List.flatMap_cons, Span.strip_render hs, ih hspans, Span.render_false]

/-! ### Wrapped texts -/

namespace Text

variable {p : Char → Prop} {width : Nat}

/-- What holds of the characters of the line that is begun, of the words, and of the space between two
words holds of the characters of all lines. -/
theorem forall_mem_wrapFrom (hspace : p ' ') {begun : Text} {words : List Text}
    (hbegun : ∀ c ∈ begun, p c) (hwords : ∀ word ∈ words, ∀ c ∈ word, p c) :
    ∀ line ∈ wrapFrom width begun words, ∀ c ∈ line, p c := by
  induction words generalizing begun with
  | nil => exact List.forall_mem_singleton.mpr hbegun
  | cons word words ih =>
      obtain ⟨hword, hwords⟩ := List.forall_mem_cons.mp hwords
      rw [wrapFrom]
      split
      · have hspaced : ∀ c ∈ ' ' :: word, p c := List.forall_mem_cons.mpr ⟨hspace, hword⟩
        exact ih (List.forall_mem_append.mpr ⟨hbegun, hspaced⟩) hwords
      · exact List.forall_mem_cons.mpr ⟨hbegun, ih hword hwords⟩

/-- **Wrapping adds nothing but spaces**: what holds of a space and of the characters of a text holds
of the characters of its lines. -/
theorem forall_mem_wrap {t : Text} (hspace : p ' ') (ht : ∀ c ∈ t, p c) :
    ∀ line ∈ wrap t width, ∀ c ∈ line, p c := by
  have hwords : ∀ word ∈ words t, ∀ c ∈ word, p c := fun word hword c hc =>
    ht c ((spaced_words t).mem_of_mem hword hc)
  rw [wrap]
  cases hsplit : words t with
  | nil => exact List.forall_mem_singleton.mpr fun c hc => absurd hc List.not_mem_nil
  | cons word words =>
      obtain ⟨hfirst, hrest⟩ := List.forall_mem_cons.mp (hsplit ▸ hwords)
      exact forall_mem_wrapFrom hspace hfirst hrest

end Text

/-! ### Reports -/

/-- Are the texts of the finding without escape characters? -/
def Finding.HasNoEscape (f : Finding) : Prop :=
  '\x1b' ∉ f.rule.toList ∧ '\x1b' ∉ f.file.toList ∧ '\x1b' ∉ f.message.toList

instance (f : Finding) : Decidable f.HasNoEscape := inferInstanceAs (Decidable
  ('\x1b' ∉ f.rule.toList ∧ '\x1b' ∉ f.file.toList ∧ '\x1b' ∉ f.message.toList))

namespace Report

/-- A number is written without escape characters. -/
theorem escape_notMem_toString (n : Nat) : '\x1b' ∉ (toString n).toList := by
  rw [Nat.toString_eq_ofList_toDigits, String.toList_ofList]
  exact notMem_toDigits (by decide) n

/-- A character as often as the report is wide is no escape character, if it is another one. -/
theorem escape_notMem_ruler {c : Char} (h : '\x1b' ≠ c) : '\x1b' ∉ (ruler c).toList := by
  rw [ruler, String.toList_ofList]
  exact fun hmem => h (List.eq_of_mem_replicate hmem)

/-- The end of a line. -/
theorem hasNoEscape_newline : Span.newline.HasNoEscape := by decide

/-- A line of its own. -/
theorem hasNoEscape_line {text : String} (h : '\x1b' ∉ text.toList) :
    ∀ s ∈ line text, s.HasNoEscape :=
  List.forall_mem_cons.mpr ⟨h, List.forall_mem_singleton.mpr hasNoEscape_newline⟩

/-- The sign of a severity. -/
theorem hasNoEscape_icon (severity : Severity) : (icon severity).HasNoEscape := by
  cases severity <;> decide

/-- The lines about a finding. -/
theorem hasNoEscape_findingLines {f : Finding} (h : f.HasNoEscape) :
    ∀ s ∈ findingLines f, s.HasNoEscape := by
  obtain ⟨hrule, -, hmessage⟩ := h
  have hother : ∀ l ∈ messageLines f.rule f.message, ∀ c ∈ l, c ≠ '\x1b' :=
    Text.forall_mem_wrap (by decide) fun c hc h => hmessage (h ▸ hc)
  have hlines : ∀ l ∈ messageLines f.rule f.message, '\x1b' ∉ l := fun l hl hmem =>
    hother l hl '\x1b' hmem rfl
  rw [findingLines]
  split
  · exact fun s hs => absurd hs List.not_mem_nil
  · next first rest hmessage =>
    rw [hmessage] at hlines
    obtain ⟨hfirst, hrest⟩ := List.forall_mem_cons.mp hlines
    refine List.forall_mem_append.mpr ⟨?_, ?_⟩
    · have htag : '\x1b' ∉ ("[" ++ f.rule ++ "]").toList := by simp [hrule]
      have htext : '\x1b' ∉ (" " ++ first.str).toList := by simp [Text.str, hfirst]
      simp only [List.forall_mem_cons, List.not_mem_nil, false_imp_iff, implies_true, and_true]
      exact ⟨by decide, hasNoEscape_icon f.severity, by decide, htag, htext, hasNoEscape_newline⟩
    · intro s hs
      obtain ⟨l, hl, hs⟩ := List.mem_flatMap.mp hs
      refine hasNoEscape_line ?_ s hs
      simp [Text.str, hrest l hl, List.mem_replicate]

/-- The lines about a file. -/
theorem hasNoEscape_fileLines {group : String × List Finding} (hfile : '\x1b' ∉ group.1.toList)
    (h : ∀ f ∈ group.2, f.HasNoEscape) : ∀ s ∈ fileLines group, s.HasNoEscape := by
  refine List.forall_mem_append.mpr ⟨?_, fun s hs => ?_⟩
  · simp only [List.forall_mem_cons, List.not_mem_nil, false_imp_iff, implies_true, and_true]
    exact ⟨hasNoEscape_newline, hfile, hasNoEscape_newline⟩
  · obtain ⟨f, hf, hs⟩ := List.mem_flatMap.mp hs
    exact hasNoEscape_findingLines (h f hf) s hs

end Report

namespace LintResult

/-- The report has no escape characters of its own. -/
theorem hasNoEscape_report {r : LintResult} (h : ∀ f ∈ r.findings, f.HasNoEscape) (strict : Bool) :
    ∀ s ∈ r.report strict, s.HasNoEscape := by
  have hfiles : ∀ s ∈ (Finding.groups r.findings).flatMap Report.fileLines, s.HasNoEscape := by
    intro s hs
    obtain ⟨group, hgroup, hs⟩ := List.mem_flatMap.mp hs
    obtain ⟨file, hfile, rfl⟩ := List.mem_map.mp hgroup
    obtain ⟨f, hf, rfl⟩ := List.mem_map.mp (Ascending.mem_ofList_iff.mp hfile)
    exact Report.hasNoEscape_fileLines (h f hf).2.1 (fun g hg => h g (List.mem_of_mem_filter hg)) s hs
  have hverdict : (r.summary.verdict strict).HasNoEscape := by
    rw [Summary.verdict]
    split <;> decide
  have hbanner : '\x1b' ∉ ("vizlint · " ++ toString r.summary.pages ++ " pages · " ++
      toString r.summary.dataFiles ++ " data files").toList := by
    simp only [String.toList_append, List.mem_append, Report.escape_notMem_toString, or_false]
    decide
  have hcounts : '\x1b' ∉ (" · " ++ toString r.summary.errors ++ " error(s) · " ++
      toString r.summary.warnings ++ " warning(s)").toList := by
    simp only [String.toList_append, List.mem_append, Report.escape_notMem_toString, or_false]
    decide
  have hdouble := Report.hasNoEscape_line (Report.escape_notMem_ruler (c := '═') (by decide))
  have hsingle := Report.hasNoEscape_line (Report.escape_notMem_ruler (c := '─') (by decide))
  have hpassed : ∀ s ∈ (if r.findings.isEmpty then
      [.newline, .styled (.strong .green) "✓ All checks passed", .newline] else [] : List Span),
      s.HasNoEscape := by
    split <;> decide
  have hnote : ∀ s ∈ (if strict then Report.line "(--strict: warnings treated as errors)" else []),
      s.HasNoEscape := by
    split <;> decide
  simp only [report, List.forall_mem_append]
  exact ⟨⟨⟨⟨⟨⟨⟨⟨⟨hdouble, List.forall_mem_cons.mpr
    ⟨hbanner, List.forall_mem_singleton.mpr Report.hasNoEscape_newline⟩⟩, hdouble⟩, hpassed⟩,
    hfiles⟩, List.forall_mem_singleton.mpr Report.hasNoEscape_newline⟩, hsingle⟩,
    List.forall_mem_singleton.mpr hverdict⟩, Report.hasNoEscape_line hcounts⟩, hnote⟩

/-- **Colour changes only colour.** -/
theorem uncoloured_report (r : LintResult) (h : ∀ f ∈ r.findings, f.HasNoEscape) (strict : Bool) :
    Styled.uncoloured (Styled.render true (r.report strict)) =
      Styled.render false (r.report strict) :=
  Styled.uncoloured_render (hasNoEscape_report h strict)

/-- A warning whose message is wrapped once, in a strict run. -/
theorem uncoloured_report_wrapped :
    (∀ f ∈ [(Notice.warn "SQL-4" "a query over all dates has no condition on the month it reads").inFile
      "pages/trips.md"], f.HasNoEscape) ∧
    (Report.messageLines "SQL-4" "a query over all dates has no condition on the month it reads").length
      = 2 ∧
    Styled.uncoloured (Styled.render true (report ⟨[(Notice.warn "SQL-4"
      "a query over all dates has no condition on the month it reads").inFile "pages/trips.md"],
      ⟨0, 1, 1, 0⟩⟩ true)) =
    Styled.render false (report ⟨[(Notice.warn "SQL-4"
      "a query over all dates has no condition on the month it reads").inFile "pages/trips.md"],
      ⟨0, 1, 1, 0⟩⟩ true) :=
  ⟨by decide, by decide, uncoloured_report _ (by decide) true⟩

end LintResult

end PageLint
