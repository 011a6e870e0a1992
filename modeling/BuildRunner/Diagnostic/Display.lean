import BuildRunner.Diagnostic.Published

/-!
Two displays that updates go to: one that keeps what is shown, as an editor would, and one that
prints each diagnostic once, below the ones before it.
-/

namespace BuildRunner

/-- What is shown for each file that has something to show. -/
structure Shown where
  files : Path.Table (List Diagnostic)

namespace Shown

/-- Nothing shown. -/
def empty : Shown := ⟨.empty⟩

/-- What is shown behind an update. -/
def set (s : Shown) (u : Update) : Shown :=
  if u.diagnostics.isEmpty then ⟨s.files.erase u.path⟩ else ⟨s.files.insert u.path u.diagnostics⟩

/-- What is shown for a file. -/
def get (s : Shown) (path : Path) : List Diagnostic := (s.files.get? path).getD []

/-- The files with something to show, in order. -/
def paths (s : Shown) : List Path := s.files.paths

/-- How many diagnostics are shown. -/
def total (s : Shown) : Nat := s.files.values.foldl (fun n ds => n + ds.length) 0

end Shown

/-- How many diagnostics of each file have been printed. -/
structure Console where
  printed : Path.Table Nat

namespace Console

/-- Nothing printed. -/
def empty : Console := ⟨.empty⟩

/-- The lines of a diagnostic: its own, and those of its children indented by two spaces. -/
def linesOf (d : Diagnostic) : List String := d.line :: d.children.map ("  " ++ ·.line)

/-- The lines to print for an update: those of the diagnostics behind the ones already printed. A
shorter sequence than was printed starts afresh. -/
def set (c : Console) (u : Update) : Console × List String :=
  let seen := (c.printed.get? u.path).getD 0
  let seen := if u.diagnostics.length < seen then 0 else seen
  (⟨c.printed.insert u.path u.diagnostics.length⟩, (u.diagnostics.drop seen).flatMap linesOf)

end Console

end BuildRunner
