import BuildRunner.Diagnostic.Severity

/-!
Counts of the diagnostics shown, and their short form.
-/

namespace BuildRunner

/-- How many files have diagnostics, and how many of each gravity there are. -/
structure Snapshot where
  files : Nat
  errors : Nat
  warnings : Nat
  informational : Nat
  deriving DecidableEq, Repr, Inhabited

namespace Snapshot

/-- Nothing shown. -/
def zero : Snapshot := ⟨0, 0, 0, 0⟩

/-- One more diagnostic of a severity. -/
def count (s : Snapshot) : Severity → Snapshot
  | .error => { s with errors := s.errors + 1 }
  | .warning => { s with warnings := s.warnings + 1 }
  | .note => { s with informational := s.informational + 1 }
  | .help => { s with informational := s.informational + 1 }

/-- How many diagnostics there are. -/
def total (s : Snapshot) : Nat := s.errors + s.warnings + s.informational

/-- Whether there are none. -/
def isEmpty (s : Snapshot) : Bool := s.total == 0

/-- The counts above zero, gravest first. -/
def status (s : Snapshot) : String :=
  let part (mark : String) (n : Nat) : List String :=
    if 0 < n then [mark ++ ":" ++ toString n] else []
  " ".intercalate (part "E" s.errors ++ part "W" s.warnings ++ part "I" s.informational)

end Snapshot

end BuildRunner
