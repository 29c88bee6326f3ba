import PageLint.Ascending

/-!
# Findings

What the rules report. A rule says `Notice`s: how severe, which rule, what is wrong. A notice about
a file is a `Finding`.

* `Finding.sorted`: the findings in the order in which they are presented: by file, and within a
  file in the order in which they were made.
* `Finding.groups`: the findings of each file.
* `Summary.ofFindings`, `Summary.failed`: the counts, and when they make a run fail.
-/

namespace PageLint

/-- How severe a finding is. An error fails a run; a warning fails it only when the run is
strict. -/
inductive Severity where
  /-- Something that is wrong. -/
  | error
  /-- Something that should be better. -/
  | warn
  deriving DecidableEq, Repr

namespace Severity

/-- The name of the severity in output. -/
def name : Severity → String
  | error => "error"
  | warn => "warn"

/-- The severity with this name in configuration; a warning has two names. -/
def ofName? : String → Option Severity
  | "error" => some error
  | "warn" | "warning" => some warn
  | _ => none

end Severity

/-- What a rule has to say, before it is known about which file. -/
structure Notice where
  /-- How severe it is. -/
  severity : Severity
  /-- The identifier of the rule. -/
  rule : String
  /-- What is wrong. -/
  message : String
  deriving DecidableEq, Repr

namespace Notice

/-- A notice of an error. -/
def error (rule message : String) : Notice := ⟨.error, rule, message⟩

/-- A notice of a warning. -/
def warn (rule message : String) : Notice := ⟨.warn, rule, message⟩

end Notice

/-- A notice about a file. -/
structure Finding extends Notice where
  /-- The path of the file as it is shown. -/
  file : String
  deriving DecidableEq, Repr

/-- The notice as a finding about a file. -/
def Notice.inFile (n : Notice) (file : String) : Finding := { n with file }

namespace Finding

/-- The findings by file; the findings of one file stay in their order. -/
def sorted (fs : List Finding) : List Finding := fs.mergeSort fun a b => a.file ≤ b.file

/-- The findings of each file, files in ascending order. -/
def groups (fs : List Finding) : List (String × List Finding) :=
  (Ascending.ofList (fs.map (·.file))).map fun file => (file, fs.filter (·.file == file))

end Finding

/-- The counts of a run. -/
structure Summary where
  /-- Findings that are errors. -/
  errors : Nat
  /-- Findings that are warnings. -/
  warnings : Nat
  /-- Pages that were checked. -/
  pages : Nat
  /-- Data files that were there. -/
  dataFiles : Nat
  deriving DecidableEq, Repr

namespace Summary

/-- The counts for a list of findings. -/
def ofFindings (fs : List Finding) (pages dataFiles : Nat) : Summary :=
  let errors := fs.countP (·.severity == .error)
  ⟨errors, fs.length - errors, pages, dataFiles⟩

/-- Does the run fail? An error fails it, and a warning does when the run is strict. -/
def failed (s : Summary) (strict : Bool) : Bool := 0 < s.errors || (strict && 0 < s.warnings)

end Summary

/-- The outcome of a run over pages and data. -/
structure LintResult where
  /-- The findings in the order of presentation. -/
  findings : List Finding
  /-- The counts. -/
  summary : Summary
  deriving DecidableEq, Repr

end PageLint
