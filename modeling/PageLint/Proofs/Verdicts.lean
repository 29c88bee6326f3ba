import PageLint.Proofs.ReportOrder
import PageLint.Program

/-!
# Verdicts

A run passes when it finds no error and, if it is strict, nothing at all (`LintResult.Passes`). The
outcome says so in four places: the counts, the JSON report, the report for people, and the exit code.
Each of them is derived from the findings in its own way, and they agree. The reports are read as they
are printed: the entry `passed` stands at the end of the JSON report (`Json.SaysPassed`), and the verdict
behind the last ruler of the report for people (`Report.verdictWord`).

A command that cannot get as far as a report leaves the exit code two and prints nothing
(`Program.finished_of_error`).

## Main results

* `Summary.failed_ofFindings_iff`: the counts fail a run exactly when it does not pass.
* `LintResult.saysPassed_iff`, `LintResult.verdictWord_report`: what the reports say.
* `Session.answers_check`, `Session.answers_gaps`: what the sessions come to.
* `Program.verdicts_agree`: **all verdicts agree**, for every run and for every command that asks for
  one.
-/

namespace PageLint

/-! ### Computations that can fail -/

section Computations

variable {ε ε' α β : Type}

/-- A sequence of two computations comes to a value when both do. -/
theorem bind_eq_ok_iff {e : Except ε α} {f : α → Except ε β} {b : β} :
    (e >>= f) = .ok b ↔ ∃ a, e = .ok a ∧ f a = .ok b := by
  cases e with
  | error failure => exact ⟨nofun, nofun⟩
  | ok a => exact ⟨fun h => ⟨a, rfl, h⟩, fun ⟨_, ha, h⟩ => Except.ok.inj ha ▸ h⟩

/-- A computation without an effect comes to its value. -/
theorem pure_eq_ok_iff {a b : α} : (pure a : Except ε α) = .ok b ↔ a = b :=
  ⟨Except.ok.inj, congrArg _⟩

/-- Another name for a failure does not change the value. -/
theorem mapError_eq_ok_iff {e : Except ε α} {g : ε → ε'} {a : α} :
    e.mapError g = .ok a ↔ e = .ok a := by
  cases e with
  | error failure => exact ⟨nofun, nofun⟩
  | ok a => exact ⟨fun h => congrArg _ (Except.ok.inj h), fun h => congrArg _ (Except.ok.inj h)⟩

/-- What does not come to a value is a failure. -/
theorem exists_error_of_isOk {e : Except ε α} (h : e.isOk = false) :
    ∃ failure, e = .error failure := by
  cases e with
  | error failure => exact ⟨failure, rfl⟩
  | ok a => contradiction

end Computations

/-! ### Runs that pass -/

/-- Does the run pass? There is no error among its findings, and nothing at all if it is strict. -/
def LintResult.Passes (r : LintResult) (strict : Bool) : Prop :=
  (∀ f ∈ r.findings, f.severity ≠ .error) ∧ (strict = true → r.findings = [])

instance (r : LintResult) (strict : Bool) : Decidable (r.Passes strict) :=
  inferInstanceAs (Decidable ((∀ f ∈ r.findings, f.severity ≠ .error) ∧
    (strict = true → r.findings = [])))

/-- A strict run that passes also passes when it is not strict. -/
theorem LintResult.Passes.of_strict {r : LintResult} (h : r.Passes true) (strict : Bool) :
    r.Passes strict := ⟨h.1, fun _ => h.2 rfl⟩

namespace Summary

/-- The errors and the warnings are all findings. -/
theorem errors_add_warnings (fs : List Finding) (pages dataFiles : Nat) :
    (ofFindings fs pages dataFiles).errors + (ofFindings fs pages dataFiles).warnings =
      fs.length :=
  Nat.add_sub_of_le List.countP_le_length

/-- **The counts fail a run exactly when it does not pass.** -/
theorem failed_ofFindings_iff {fs : List Finding} {pages dataFiles : Nat} {strict : Bool} :
    (ofFindings fs pages dataFiles).failed strict = false ↔
      LintResult.Passes ⟨fs, ofFindings fs pages dataFiles⟩ strict := by
  have htotal := errors_add_warnings fs pages dataFiles
  have herrors : (ofFindings fs pages dataFiles).errors = 0 ↔
      ∀ f ∈ fs, f.severity ≠ .error := by
    simp [ofFindings, List.countP_eq_zero]
  rw [failed, Bool.or_eq_false_iff, Bool.and_eq_false_iff, decide_eq_false_iff_not,
    decide_eq_false_iff_not, Nat.not_lt, Nat.not_lt, Nat.le_zero, Nat.le_zero, herrors,
    LintResult.Passes]
  refine and_congr_right fun hnone => ?_
  rw [herrors.mpr hnone, Nat.zero_add] at htotal
  cases strict with
  | false => simp
  | true => simp [htotal, List.length_eq_zero_iff]

end Summary

/-- A run counts its own findings. -/
theorem Checker.summary_of_lint {checker : Checker} {tree : FileTree} {inputs : Inputs}
    {r : LintResult} (h : checker.lint tree inputs = .ok r) :
    ∃ pages dataFiles, r.summary = Summary.ofFindings r.findings pages dataFiles := by
  simp only [lint, bind_eq_ok_iff, pure_eq_ok_iff] at h
  obtain ⟨_, -, _, -, _, -, rfl⟩ := h
  exact ⟨_, _, rfl⟩

/-- The counts of a run fail it exactly when it does not pass. -/
theorem Checker.failed_of_lint {checker : Checker} {tree : FileTree} {inputs : Inputs}
    {r : LintResult} (h : checker.lint tree inputs = .ok r) {strict : Bool} :
    r.summary.failed strict = false ↔ r.Passes strict := by
  obtain ⟨pages, dataFiles, hsummary⟩ := summary_of_lint h
  rw [hsummary, Summary.failed_ofFindings_iff]
  rfl

/-! ### What the JSON report says -/

namespace Json

/-- The value of a key of an object. -/
def get? (key : String) : Json → Option Json
  | object entries => entries.lookup key
  | _ => none

/-- Does the printed report of a run say that the run passes? The verdict is its last entry. -/
def SaysPassed (report : Text) : Prop := "\n  \"passed\": true\n\x7d\n".toList <:+ report

/-- The text of further entries ends with that of the last one. -/
theorem prettyEntries_concat (depth : Nat) (entries : List (String × Json)) (key : String)
    (value : Json) : prettyEntries depth (entries ++ [(key, value)]) =
      prettyEntries depth entries ++
        ("," ++ lineStart depth ++ quote key ++ ": " ++ prettyAt depth value) := by
  induction entries with
  | nil => simp [prettyEntries]
  | cons entry entries ih =>
      rw [List.cons_append, prettyEntries, prettyEntries, ih]
      simp only [String.append_assoc]

/-- The text of an object ends with its last entry. -/
theorem exists_pretty_object (first : String × Json) (entries : List (String × Json))
    (key : String) (value : Json) : ∃ front : String,
      (object (first :: (entries ++ [(key, value)]))).pretty =
        front ++ (lineStart 1 ++ quote key ++ ": " ++ prettyAt 1 value ++ lineStart 0 ++ "\x7d") := by
  refine ⟨"\x7b" ++ lineStart 1 ++ quote first.1 ++ ": " ++ prettyAt 1 first.2 ++
    prettyEntries 1 entries ++ ",", ?_⟩
  rw [pretty, prettyAt, prettyEntries_concat]
  simp only [String.append_assoc, Nat.zero_add]

end Json

namespace LintResult

variable (r : LintResult) (strict : Bool)

/-- The JSON report has the verdict of the counts. -/
theorem get?_json_passed :
    (r.json strict).get? "passed" = some (.bool (!r.summary.failed strict)) := rfl

/-- The printed report ends with the verdict. -/
theorem pretty_json : ∃ front : String,
    (r.json strict).pretty = front ++ ("\n  \"passed\": " ++
      (if r.summary.failed strict then "false" else "true") ++ "\n\x7d") := by
  obtain ⟨front, hfront⟩ := Json.exists_pretty_object ("findings", .array (r.findings.map (·.json)))
    [("summary", r.summary.json), ("strict", .bool strict)] "passed"
    (.bool (!r.summary.failed strict))
  refine ⟨front, hfront.trans ?_⟩
  cases r.summary.failed strict with
  | true => rfl
  | false => rfl

/-- **What the printed JSON report says** is the verdict of the counts. -/
theorem saysPassed_iff : Json.SaysPassed ((r.json strict).pretty ++ "\n").toList ↔
    r.summary.failed strict = false := by
  obtain ⟨front, hpretty⟩ := r.pretty_json strict
  rw [hpretty, Json.SaysPassed, ← List.reverse_prefix]
  cases r.summary.failed strict with
  | true => simp
  | false => simp

end LintResult

/-! ### What the report for people says -/

/-- The verdict of a report: the capitals between the last ruler and the dot behind the verdict. -/
def Report.verdictWord (report : Text) : Text :=
  let behind := (report.reverse.takeWhile (· != '─')).reverse
  (behind.takeWhile (· != '·')).filter Char.isUpper

/-- Without colours a span is its text. -/
theorem Span.render_false (s : Span) : s.render false = s.text := rfl

/-- The characters of rendered spans are those of the spans. -/
theorem Styled.toList_render (color : Bool) (spans : List Span) :
    (render color spans).toList = spans.flatMap fun s => (s.render color).toList := by
  rw [render, String.toList_join, List.flatMap_map]

/-- A number is written in digits. -/
theorem Report.notMem_toDigits {c : Char} (hc : c.isDigit = false) (n : Nat) :
    c ∉ Nat.toDigits 10 n := fun h => by
  rw [Nat.isDigit_of_mem_toDigits (by decide) (by decide) h] at hc
  cases hc

/-- A ruler ends with one of its characters. -/
theorem Report.exists_toList_ruler (c : Char) : ∃ front, (ruler c).toList = front ++ [c] :=
  ⟨List.replicate (width - 1) c, String.toList_ofList.trans List.replicate_succ'⟩

/-- The verdict of a report is read off the text behind a ruler, if no ruler follows. -/
theorem Report.verdictWord_append (front : Text) {behind : Text} (h : '─' ∉ behind) :
    verdictWord (front ++ '─' :: behind) =
      (behind.takeWhile (· != '·')).filter Char.isUpper := by
  have hbehind : (front ++ '─' :: behind).reverse.takeWhile (· != '─') = behind.reverse := by
    rw [List.reverse_append, List.reverse_cons, List.append_assoc, List.takeWhile_append_of_pos]
    · simp
    · intro c hc
      exact bne_iff_ne.mpr fun hruler => h (hruler ▸ List.mem_reverse.mp hc)
  rw [verdictWord, hbehind, List.reverse_reverse]

/-- A line is rendered as it is. -/
theorem Report.flatMap_line (color : Bool) (s : String) :
    (line s).flatMap (fun s : Span => (s.render color).toList) = s.toList ++ ['\n'] := by
  cases color <;> simp [line, Span.plain, Span.newline, Span.render]

/-- A report ends with a ruler, the verdict, the counts and the note about strictness. -/
theorem LintResult.report_eq (r : LintResult) (strict : Bool) : ∃ spans : List Span,
    r.report strict = spans ++ (Report.line (Report.ruler '─') ++ ([r.summary.verdict strict] ++
      (Report.line (" · " ++ toString r.summary.errors ++ " error(s) · " ++
        toString r.summary.warnings ++ " warning(s)") ++
      (if strict then Report.line "(--strict: warnings treated as errors)" else [])))) := by
  apply Exists.intro
  rw [report, List.append_assoc, List.append_assoc, List.append_assoc]

/-- **What the report for people says** is the verdict of the counts, with or without colour. -/
theorem LintResult.verdictWord_report (r : LintResult) (strict color : Bool) :
    Report.verdictWord (Styled.render color (r.report strict)).toList =
      if r.summary.failed strict = false then "PASS".toList else "FAIL".toList := by
  let counts : Text := (toString r.summary.errors).toList ++ " error(s) · ".toList ++
    (toString r.summary.warnings).toList ++ " warning(s)\n".toList
  let note : Text := if strict then "(--strict: warnings treated as errors)\n".toList else []
  let verdict : Text := ((r.summary.verdict strict).render color).toList
  obtain ⟨front, hreport⟩ : ∃ front : Text, (Styled.render color (r.report strict)).toList =
      front ++ '─' :: ('\n' :: (verdict ++ (' ' :: '·' :: ' ' :: (counts ++ note)))) := by
    obtain ⟨ruler, hruler⟩ := Report.exists_toList_ruler '─'
    obtain ⟨spans, hspans⟩ := r.report_eq strict
    refine ⟨spans.flatMap (fun s => (s.render color).toList) ++ ruler, ?_⟩
    have hnote : (if strict then Report.line "(--strict: warnings treated as errors)" else []).flatMap
        (fun s : Span => (s.render color).toList) = note := by
      cases strict <;> cases color <;> rfl
    rw [Styled.toList_render, hspans]
    simp only [List.flatMap_append, hnote, Report.flatMap_line, hruler]
    simp [verdict, counts]
  have hcounts : '─' ∉ counts := by
    have hdigits : ∀ n, '─' ∉ Nat.toDigits 10 n := Report.notMem_toDigits (by decide)
    simp [counts, hdigits]
  have hnote : '─' ∉ note := by
    cases strict <;> simp [note]
  have hverdict : '─' ∉ verdict := by
    simp only [verdict, Summary.verdict]
    cases r.summary.failed strict <;> cases color <;> decide
  rw [hreport, Report.verdictWord_append front (by simp [hcounts, hnote, hverdict])]
  simp only [verdict, Summary.verdict]
  cases r.summary.failed strict <;> cases color <;> rfl

/-- A document of its own is printed as it is, with or without colour. -/
theorem Json.toList_render_document (j : Json) (color : Bool) :
    (Styled.render color j.document).toList = (j.pretty ++ "\n").toList := by
  rw [Styled.toList_render, Json.document, Report.flatMap_line, String.toList_append]
  rfl

/-! ### Sessions -/

/-- What a command works with: its configuration, and the checker for the rule tables of this. -/
def Configuration.prepare (tree : FileTree) (start : Option String) (given : Settings) :
    Except Failure (Configuration × Checker) := do
  let c ← resolve tree (Path.ofString (start.getD ".")) given
  let checker ← (Checker.ofTables c.rules).mapError .pattern
  return (c, checker)

/-- The run that a command asks for, with its configuration. -/
def Configuration.lint (tree : FileTree) (start : Option String) (given : Settings) :
    Except Failure (Configuration × LintResult) := do
  let (c, checker) ← prepare tree start given
  let result ← checker.lint tree c.inputs
  return (c, result)

namespace Session

variable {α β : Type}

/-- Does the session come to this answer or failure, whatever it remarks? -/
def Answers (s : Session α) (e : Except Failure α) : Prop :=
  ∀ remarks, ∃ more, s.run remarks = match e with
    | .ok a => .ok a more
    | .error failure => .error failure more

/-- A session without an effect answers with its value. -/
theorem answers_pure (a : α) : Answers (pure a) (.ok a) := fun remarks => ⟨remarks, rfl⟩

/-- A session that is a computation answers as it does. -/
theorem answers_ofExcept (e : Except Failure α) : (ofExcept e).Answers e := fun remarks => by
  cases e with
  | ok a => exact ⟨remarks, rfl⟩
  | error failure => exact ⟨remarks, rfl⟩

/-- A log entry changes no answer. -/
theorem answers_log (events : List Log.Event) : (log events).Answers (.ok ()) := fun _ => ⟨_, rfl⟩

/-- A remark changes no answer. -/
theorem answers_remark (r : Remark) : (remark r).Answers (.ok ()) := fun _ => ⟨_, rfl⟩

/-- Two sessions one after the other: the second is for the answer of the first. -/
theorem Answers.bind {s : Session α} {e : Except Failure α} {f : α → Session β}
    {g : α → Except Failure β} (hs : s.Answers e) (hf : ∀ a, (f a).Answers (g a)) :
    (s >>= f).Answers (e >>= g) := by
  intro remarks
  obtain ⟨more, hrun⟩ := hs remarks
  rw [EStateM.run_bind, hrun]
  cases e with
  | ok a => exact hf a more
  | error failure => exact ⟨more, rfl⟩

/-- Reading the configuration. -/
theorem answers_configuration (tree : FileTree) (start : Option String) (given : Settings) :
    (configuration tree start given).Answers
      (Configuration.resolve tree (Path.ofString (start.getD ".")) given) := by
  rw [← bind_pure (Configuration.resolve tree (Path.ofString (start.getD ".")) given)]
  exact (answers_ofExcept _).bind fun _ => (answers_log _).bind fun _ => answers_pure _

/-- Making the checker. -/
theorem answers_checker (tables : RuleTables) :
    (checker tables).Answers ((Checker.ofTables tables).mapError .pattern) := by
  have h : (checker tables).Answers ((Checker.ofTables tables).mapError .pattern >>= pure) :=
    (answers_log _).bind fun _ => (answers_ofExcept _).bind fun _ => (answers_log _).bind
      fun _ => answers_pure _
  rwa [bind_pure] at h

/-- **The session that lints** shows the report of its run and says whether the counts fail it. -/
theorem answers_check (tree : FileTree) (start : Option String) (given : Settings) :
    (check tree start given).Answers (Configuration.lint tree start given >>= fun (c, r) =>
      pure ⟨if c.wantsJson then (r.json c.strict).document else r.report c.strict,
        !r.summary.failed c.strict⟩) := by
  simp only [Configuration.lint, Configuration.prepare, bind_assoc, pure_bind]
  refine (answers_configuration tree start given).bind fun c => ?_
  have hrun := (answers_checker c.rules).bind fun checker =>
    (answers_ofExcept (checker.lint tree c.inputs)).bind fun r =>
      (answers_log (checker.misplacedEvents tree c.inputs)).bind fun _ => answers_pure
        (⟨if c.wantsJson then (r.json c.strict).document else r.report c.strict,
          !r.summary.failed c.strict⟩ : Reply)
  simp only
  split
  · exact (answers_remark _).bind fun _ => hrun
  · exact hrun

/-- The session that shows the gaps needs no more than a checker. -/
theorem answers_gaps (tree : FileTree) (start : Option String) (given : Settings) :
    (gaps tree start given).Answers (Configuration.prepare tree start given >>= fun (c, checker) =>
      pure ⟨if c.wantsJson then checker.gaps.json.document else checker.gaps.listing, true⟩) := by
  simp only [Configuration.prepare, bind_assoc, pure_bind]
  exact (answers_configuration tree start given).bind fun c => (answers_checker c.rules).bind
    fun _ => answers_pure _

end Session

/-! ### Outcomes -/

namespace Program

variable {color : Bool} {filter : Log.Filter} {s : Session Reply}

/-- A session that fails leaves the code two and prints nothing. -/
theorem finished_of_error {failure : Failure} (h : s.Answers (.error failure)) :
    (finished color filter s).code = 2 ∧ (finished color filter s).output = "" := by
  obtain ⟨more, hrun⟩ := h []
  rw [finished, hrun]
  exact ⟨rfl, rfl⟩

/-- A session that answers prints its answer, and leaves the code that goes with it. -/
theorem finished_of_ok {reply : Reply} (h : s.Answers (.ok reply)) :
    (finished color filter s).code = (if reply.passed then 0 else 1) ∧
      (finished color filter s).output = Styled.render color reply.spans := by
  obtain ⟨more, hrun⟩ := h []
  rw [finished, hrun]
  exact ⟨rfl, rfl⟩

end Program

/-! ### Strict runs -/

namespace Configuration

variable {tree : FileTree} {start : Option String} {given : Settings} {c : Configuration}

/-- What is given about strictness changes nothing else in a configuration. -/
theorem resolve_strict {dir : Path} (strict : Option Bool) (h : resolve tree dir given = .ok c) :
    ∃ own, resolve tree dir { given with strict } = .ok { c with strict := own } := by
  simp only [resolve] at h ⊢
  cases hfile : Settings.file? tree (tree.root dir) with
  | none =>
      simp only [hfile] at h ⊢
      cases h
      exact ⟨_, rfl⟩
  | some file =>
      simp only [hfile] at h ⊢
      cases hread : Settings.read? tree file.1 file.2 with
      | none => simp [hread] at h
      | some read =>
          simp only [hread] at h ⊢
          cases h
          exact ⟨_, rfl⟩

/-- A command makes its run when its configuration, its checker and the run are there. -/
theorem lint_eq_ok_iff {r : LintResult} : Configuration.lint tree start given = .ok (c, r) ↔
    resolve tree (Path.ofString (start.getD ".")) given = .ok c ∧
      ∃ checker, Checker.ofTables c.rules = .ok checker ∧ checker.lint tree c.inputs = .ok r := by
  simp only [Configuration.lint, prepare, bind_eq_ok_iff, mapError_eq_ok_iff, pure_eq_ok_iff,
    Prod.exists, Prod.mk.injEq]
  constructor
  · rintro ⟨_, _, ⟨_, hc, checker, hchecker, rfl, rfl⟩, _, hlint, rfl, rfl⟩
    exact ⟨hc, checker, hchecker, hlint⟩
  · rintro ⟨hc, checker, hchecker, hlint⟩
    exact ⟨c, checker, ⟨c, hc, checker, hchecker, rfl, rfl⟩, r, hlint, rfl, rfl⟩

/-- A configuration is strict if that is given. -/
theorem strict_of_lint {r : LintResult}
    (h : Configuration.lint tree start { given with strict := some true } = .ok (c, r)) :
    c.strict = true := by
  obtain ⟨hc, -⟩ := lint_eq_ok_iff.mp h
  simp only [resolve] at hc
  split at hc
  · cases hc
    rfl
  · split at hc
    · cases hc
    · cases hc
      rfl

/-- What is given about strictness changes neither the run nor where it reads from. -/
theorem lint_strict {r : LintResult} (strict : Option Bool)
    (h : Configuration.lint tree start given = .ok (c, r)) :
    ∃ own, Configuration.lint tree start { given with strict } =
      .ok ({ c with strict := own }, r) := by
  obtain ⟨hc, checker, hchecker, hlint⟩ := lint_eq_ok_iff.mp h
  obtain ⟨own, hown⟩ := resolve_strict strict hc
  exact ⟨own, lint_eq_ok_iff.mpr ⟨hown, checker, hchecker, hlint⟩⟩

end Configuration

/-! ### Agreement -/

/-- An outcome tells whether a run passes: by its code, and by its output in either form. -/
structure Outcome.Tells (o : Outcome) (c : Configuration) (r : LintResult) : Prop where
  /-- The code is zero exactly if the run passes, and one otherwise. -/
  code_eq : o.code = if r.Passes c.strict then 0 else 1
  /-- The output for programs says so. -/
  saysPassed_iff : c.wantsJson = true → (Json.SaysPassed o.output.toList ↔ r.Passes c.strict)
  /-- The output for people says so. -/
  verdictWord_eq : c.wantsJson = false →
    Report.verdictWord o.output.toList = if r.Passes c.strict then "PASS".toList else "FAIL".toList

/-- The code zero means that the run passes. -/
theorem Outcome.Tells.passes {o : Outcome} {c : Configuration} {r : LintResult} (h : o.Tells c r)
    (hcode : o.code = 0) : r.Passes c.strict := by
  rw [h.code_eq] at hcode
  split at hcode
  next hpasses => exact hpasses
  next => contradiction

/-- An outcome without a report. -/
structure Outcome.Fails (o : Outcome) : Prop where
  /-- The code is that of a failure. -/
  code_eq : o.code = 2
  /-- There is no output. -/
  output_eq : o.output = ""

namespace Program

variable {env : Environment} {tree : FileTree} {arguments : List String} {verbosity : Nat}
  {start : Option String} {given : Settings}

/-- A command that lints is the session that lints. -/
theorem run_check
    (h : CommandLine.Request.ofArguments arguments = .ok ⟨verbosity, .check start given⟩) :
    run env tree arguments =
      finished env.color (env.filter verbosity) (Session.check tree start given) := by
  rw [run, h]
  rfl

/-- A command that shows the gaps is the session that shows them. -/
theorem run_gaps
    (h : CommandLine.Request.ofArguments arguments = .ok ⟨verbosity, .gaps start given⟩) :
    run env tree arguments =
      finished env.color (env.filter verbosity) (Session.gaps tree start given) := by
  rw [run, h]
  rfl

/-- A command that makes its run tells whether the run passes. -/
theorem tells_of_lint {c : Configuration} {r : LintResult}
    (h : CommandLine.Request.ofArguments arguments = .ok ⟨verbosity, .check start given⟩)
    (hlint : Configuration.lint tree start given = .ok (c, r)) :
    (run env tree arguments).Tells c r := by
  obtain ⟨-, checker, -, hr⟩ := Configuration.lint_eq_ok_iff.mp hlint
  have hpasses : r.summary.failed c.strict = false ↔ r.Passes c.strict := Checker.failed_of_lint hr
  have hanswer := Session.answers_check tree start given
  rw [hlint] at hanswer
  rw [run_check h]
  obtain ⟨hcode, houtput⟩ := @finished_of_ok env.color (env.filter verbosity) _ _ hanswer
  refine ⟨?_, fun hjson => ?_, fun hhuman => ?_⟩
  · simp only [hcode, Bool.not_eq_true', hpasses]
  · simp only [hjson, if_true] at houtput
    rw [houtput, Json.toList_render_document, LintResult.saysPassed_iff, hpasses]
  · simp only [hhuman, Bool.false_eq_true, if_false] at houtput
    rw [houtput, LintResult.verdictWord_report]
    simp only [hpasses]

/-- A command that asks for a run fails when there is none. -/
theorem fails_of_lint {failure : Failure}
    (h : CommandLine.Request.ofArguments arguments = .ok ⟨verbosity, .check start given⟩)
    (hlint : Configuration.lint tree start given = .error failure) :
    (run env tree arguments).Fails := by
  have hanswer := Session.answers_check tree start given
  rw [hlint] at hanswer
  rw [run_check h]
  obtain ⟨hcode, houtput⟩ := finished_of_error hanswer
  exact ⟨hcode, houtput⟩

/-- A command that asks for the gaps fails when there is no checker. -/
theorem fails_of_prepare {failure : Failure}
    (h : CommandLine.Request.ofArguments arguments = .ok ⟨verbosity, .gaps start given⟩)
    (hprepare : Configuration.prepare tree start given = .error failure) :
    (run env tree arguments).Fails := by
  have hanswer := Session.answers_gaps tree start given
  rw [hprepare] at hanswer
  rw [run_gaps h]
  obtain ⟨hcode, houtput⟩ := finished_of_error hanswer
  exact ⟨hcode, houtput⟩

/-- **All verdicts agree.** The counts of a run are those of its findings, and the run passes when
both reports say so, strict or not, with colour or without; a run that passes when it is strict also
passes when it is not. A command that asks for a run tells this by its code and by its output, with
the same verdict. If the configuration, the checker or the run is not there, it fails without a
report. -/
theorem verdicts_agree :
    (∀ (checker : Checker) (tree : FileTree) (inputs : Inputs) (r : LintResult),
      checker.lint tree inputs = .ok r →
        r.summary.errors = r.findings.countP (·.severity = .error) ∧
        r.summary.errors + r.summary.warnings = r.findings.length ∧
        (r.Passes true → r.Passes false) ∧
        ∀ strict : Bool,
          ((r.json strict).get? "passed" = some (.bool true) ↔ r.Passes strict) ∧
          ∀ color : Bool, Report.verdictWord (Styled.render color (r.report strict)).toList =
            if r.Passes strict then "PASS".toList else "FAIL".toList) ∧
    (∀ (env : Environment) (tree : FileTree) (arguments : List String) (verbosity : Nat)
      (start : Option String) (given : Settings),
      CommandLine.Request.ofArguments arguments = .ok ⟨verbosity, .check start given⟩ →
        (∀ c r, Configuration.lint tree start given = .ok (c, r) →
          (run env tree arguments).Tells c r) ∧
        (∀ failure, Configuration.lint tree start given = .error failure →
          (run env tree arguments).Fails)) ∧
    (∀ (env : Environment) (tree : FileTree) (arguments : List String) (verbosity : Nat)
      (start : Option String) (given : Settings),
      CommandLine.Request.ofArguments arguments = .ok ⟨verbosity, .gaps start given⟩ →
        ∀ failure, Configuration.prepare tree start given = .error failure →
          (run env tree arguments).Fails) ∧
    (∀ (env : Environment) (tree : FileTree) (strictly loosely : List String) (v v' : Nat)
      (start : Option String) (given : Settings) (strict : Option Bool),
      CommandLine.Request.ofArguments strictly =
          .ok ⟨v, .check start { given with strict := some true }⟩ →
        CommandLine.Request.ofArguments loosely = .ok ⟨v', .check start { given with strict }⟩ →
        (run env tree strictly).code = 0 → (run env tree loosely).code = 0) := by
  refine ⟨fun checker tree inputs r h => ?_, fun env tree arguments verbosity start given h =>
    ⟨fun c r => tells_of_lint h, fun failure => fails_of_lint h⟩,
    fun env tree arguments verbosity start given h failure => fails_of_prepare h,
    fun env tree strictly loosely v v' start given strict hs hl hcode => ?_⟩
  · obtain ⟨pages, dataFiles, hsummary⟩ := Checker.summary_of_lint h
    have hpasses (strict : Bool) : r.summary.failed strict = false ↔ r.Passes strict :=
      Checker.failed_of_lint h
    refine ⟨?_, ?_, fun hstrict => hstrict.of_strict false, fun strict => ⟨?_, fun color => ?_⟩⟩
    · rw [hsummary, Summary.ofFindings]
      exact List.countP_congr fun f _ => by simp
    · rw [hsummary, Summary.errors_add_warnings]
    · rw [LintResult.get?_json_passed, ← hpasses strict]
      simp
    · rw [LintResult.verdictWord_report]
      simp only [hpasses]
  · cases hlint : Configuration.lint tree start { given with strict := some true } with
    | error failure =>
        rw [(fails_of_lint hs hlint).code_eq] at hcode
        contradiction
    | ok run =>
        obtain ⟨c, r⟩ := run
        obtain ⟨own, hown⟩ := Configuration.lint_strict strict hlint
        have hstrict : c.strict = true := Configuration.strict_of_lint hlint
        have hpasses : r.Passes true := hstrict ▸ (tells_of_lint hs hlint).passes hcode
        rw [(tells_of_lint hl hown).code_eq, if_pos (hpasses.of_strict own)]

/-- A run over no pages finds what there is to find about the data. -/
theorem exists_lint_noPages {tree : FileTree} {start : Option String} {given : Settings}
    {p : Configuration → List Finding → Bool}
    (h : (match Configuration.prepare tree start given with
      | .error _ => false
      | .ok (c, checker) => decide (tree.pages? c.pages = .ok []) && tree.isDirectory c.sources &&
          p c (checker.dataFindings
            (DataSet.load tree checker.tables.data c.sources c.root))) = true) :
    ∃ c r findings, Configuration.lint tree start given = .ok (c, r) ∧
      r.findings.Perm findings ∧ p c findings = true := by
  split at h
  · contradiction
  next c checker hprepare =>
  simp only [Bool.and_eq_true, decide_eq_true_eq] at h
  obtain ⟨⟨hpages, hdata⟩, hp⟩ := h
  let findings := checker.dataFindings (DataSet.load tree checker.tables.data c.sources c.root)
  refine ⟨c, ⟨Finding.sorted findings, Summary.ofFindings (Finding.sorted findings) 0
    (tree.countEndingWith c.sources ".csv")⟩, findings, ?_, Finding.sorted_perm findings, hp⟩
  have hcheck : checker.checkData tree c.sources c.root =
      .ok ⟨findings, tree.countEndingWith c.sources ".csv"⟩ := if_pos hdata
  rw [Configuration.lint, hprepare]
  simp only [bind, Except.bind, Checker.lint, Configuration.inputs, hpages, List.mapM_nil, hcheck,
    pure, Except.pure, List.flatMap_nil, List.nil_append, List.length_nil]

/-- Without pages, the built-in tables find three files missing, and the code is one. Without these
checks the strict run finds nothing and leaves zero, so the other one does too. A configuration file
that cannot be read and directories that are not there leave two. -/
theorem verdicts_agree_missingFiles :
    let env : Environment := ⟨false, none⟩
    let directories : List (Location × Node) :=
      [(["pages".toList], .directory), (["sources".toList, "CMP".toList], .directory)]
    let bare : FileTree := ⟨directories, []⟩
    let configured : FileTree := ⟨(["vizlint.toml".toList],
      .file (Text.utf8 ("[rules.data]\n".toList ++ "references = []".toList))) :: directories, []⟩
    let broken : FileTree := ⟨(["vizlint.toml".toList], .file [0xff]) :: directories, []⟩
    (∃ c r, Configuration.lint bare none {} = .ok (c, r) ∧
      (r.json false).get? "passed" ≠ some (.bool true)) ∧
      (run env bare ["check"]).code = 1 ∧
      Report.verdictWord (run env bare ["check"]).output.toList = "FAIL".toList ∧
      (run env configured ["check", "--strict"]).code = 0 ∧
      (run env configured ["check"]).code = 0 ∧
      (run env broken ["gaps"]).Fails ∧ (run env ⟨[], []⟩ ["check"]).Fails := by
  intro env directories bare configured broken
  obtain ⟨hresult, hcheck, hgaps, hstrict⟩ := verdicts_agree
  have hrequest : CommandLine.Request.ofArguments ["check"] = .ok ⟨0, .check none {}⟩ := by
    decide +kernel
  have hrequest' : CommandLine.Request.ofArguments ["check", "--strict"] =
      .ok ⟨0, .check none { strict := some true }⟩ := by
    decide +kernel
  obtain ⟨c, r, findings, hrun, hperm, herror⟩ :
      ∃ c r findings, Configuration.lint bare none {} = .ok (c, r) ∧ r.findings.Perm findings ∧
        (!c.wantsJson && findings.any (·.severity == .error)) = true :=
    exists_lint_noPages (p := fun c findings =>
      !c.wantsJson && findings.any (·.severity == .error)) (by decide +kernel)
  obtain ⟨c', r', findings', hrun', hperm', hnone⟩ :
      ∃ c r findings, Configuration.lint configured none { strict := some true } = .ok (c, r) ∧
        r.findings.Perm findings ∧ findings.isEmpty = true :=
    exists_lint_noPages (p := fun _ findings => findings.isEmpty) (by decide +kernel)
  simp only [Bool.and_eq_true, Bool.not_eq_true', List.any_eq_true, beq_iff_eq] at herror
  obtain ⟨hhuman, f, hf, hseverity⟩ := herror
  have hfails (strict : Bool) : ¬r.Passes strict := fun hpasses =>
    hpasses.1 f (hperm.mem_iff.mpr hf) hseverity
  have hpasses : r'.Passes c'.strict := by
    have hempty : r'.findings = [] := (List.isEmpty_iff.mp hnone ▸ hperm').eq_nil
    simp [LintResult.Passes, hempty]
  obtain ⟨broke, hbroke⟩ := exists_error_of_isOk
    (e := Configuration.prepare broken none {}) (by decide +kernel)
  obtain ⟨absent, habsent⟩ := exists_error_of_isOk
    (e := Configuration.lint ⟨[], []⟩ none {}) (by decide +kernel)
  have htells := (hcheck env bare ["check"] 0 none {} hrequest).1 c r hrun
  have htells' := (hcheck env configured ["check", "--strict"] 0 none _ hrequest').1 c' r' hrun'
  have hzero : (run env configured ["check", "--strict"]).code = 0 := by
    rw [htells'.code_eq, if_pos hpasses]
  obtain ⟨-, checker, -, hr⟩ := Configuration.lint_eq_ok_iff.mp hrun
  have hjson := ((hresult checker bare c.inputs r hr).2.2.2 false).1
  refine ⟨⟨c, r, hrun, mt hjson.mp (hfails false)⟩, ?_, ?_, hzero, ?_, ?_, ?_⟩
  · rw [htells.code_eq, if_neg (hfails c.strict)]
  · rw [htells.verdictWord_eq hhuman, if_neg (hfails c.strict)]
  · exact hstrict env configured ["check", "--strict"] ["check"] 0 0 none {} none hrequest' hrequest
      hzero
  · exact hgaps env broken ["gaps"] 0 none {} (by decide +kernel) broke hbroke
  · exact (hcheck env ⟨[], []⟩ ["check"] 0 none {} hrequest).2 absent habsent

end Program

end PageLint
