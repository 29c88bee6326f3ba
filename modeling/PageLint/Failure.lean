import PageLint.Checker
import PageLint.Path

/-!
# Failures

What stops a run before there is a report. Problems in pages and data files are findings and never
failures.

* `Failure.message`: what is said about a failure.
-/

namespace PageLint

/-- Why there is no report. -/
inductive Failure where
  /-- There is no directory of pages at the path. -/
  | pagesDirNotFound (path : Path)
  /-- There is no directory of data files at the path. -/
  | dataDirNotFound (path : Path)
  /-- A page is not UTF-8. -/
  | pageRead (path : Path)
  /-- A configuration file cannot be read, or does not describe a configuration. -/
  | config (path : Path)
  /-- The pattern of a marker cannot be read. -/
  | pattern (e : PatternError)
  deriving DecidableEq, Repr

namespace Failure

/-- What is said about the failure. -/
def message : Failure → String
  | pagesDirNotFound path => "pages directory not found: " ++ path.str
  | dataDirNotFound path => "data directory not found: " ++ path.str
  | pageRead path => "failed to read page " ++ path.str ++ ": stream did not contain valid UTF-8"
  | config path => "invalid config " ++ path.str ++ ": it does not describe a configuration"
  | pattern e => "invalid pattern for " ++ e.rule ++ ": it cannot be read"

end Failure

end PageLint
