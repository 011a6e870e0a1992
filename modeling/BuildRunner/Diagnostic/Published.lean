import BuildRunner.Diagnostic.Basic
import BuildRunner.Diagnostic.Snapshot
import BuildRunner.Path.Table

/-!
The diagnostics of the current run, filed under their files, and the updates that tell a display
about each change: the whole new sequence of one file. Clearing empties every file; publishing
appends to one.
-/

namespace BuildRunner

/-- The new sequence of a file; an empty one means that nothing is shown for it any more. -/
structure Update where
  path : Path
  diagnostics : List Diagnostic
  deriving Repr

/-- The diagnostics of the current run in the order of their arrival. With `dedupe`, a diagnostic
that looks like an earlier one of its file is dropped. -/
structure Published where
  dedupe : Bool
  files : Path.Table (List Diagnostic)

namespace Published

/-- Nothing published yet. -/
def empty (dedupe : Bool) : Published := ⟨dedupe, .empty⟩

/-- What is published for a file. -/
def forFile (p : Published) (path : Path) : List Diagnostic := (p.files.get? path).getD []

/-- Everything withdrawn, with the updates of the files that had something. -/
def clear (p : Published) : Published × List Update :=
  ({ p with files := .empty }, p.files.paths.map (⟨·, []⟩))

/-- One diagnostic more, its paths resolved against a directory, and the update of its file: none
when it was dropped. -/
def publish (p : Published) (d : Diagnostic) (base : Path) : Published × Option Update :=
  let d := d.resolve base
  let shown := p.forFile d.path
  if p.dedupe && shown.any (·.sameReport d) then (p, none)
  else
    let shown := shown ++ [d]
    ({ p with files := p.files.insert d.path shown }, some ⟨d.path, shown⟩)

/-- The counts of what is published. -/
def snapshot (p : Published) : Snapshot :=
  p.files.values.flatten.foldl (fun s d => s.count d.severity)
    { Snapshot.zero with files := p.files.size }

end Published

end BuildRunner
