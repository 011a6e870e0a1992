import BuildRunner.Config.Basic
import BuildRunner.Files.Tree

/-!
Where the tool runs, and which configuration counts there.
-/

namespace BuildRunner

/-- How the working directory is found. -/
inductive WorkingDirectory where
  /-- It is given. -/
  | fixed (dir : Path)
  /-- It is the nearest directory with a manifest, from a start upwards. -/
  | manifest (start : Path)
  deriving DecidableEq, Repr

namespace WorkingDirectory

/-- The file that marks a project. -/
def manifestName : Path := ⟨"Cargo.toml"⟩

/-- The working directory as it is written. -/
def find (t : FileTree) (cwd : Place) : WorkingDirectory → Except DirectoryError Path
  | fixed dir => if t.isDirectory cwd dir then .ok dir else .error (.notDirectory dir)
  | manifest start =>
    match start.ancestors.find? fun dir => t.isFile cwd (dir.join manifestName) with
    | some dir => .ok dir
    | none => .error (.noManifest start)

end WorkingDirectory

namespace Config

/-- The configuration in a file, not checked yet. -/
def inFile (t : FileTree) (cwd : Place) (p : Path) : Except Failure Config := do
  match t.readText cwd p with
  | .ok text => parse text
  | .error e => .error (.file e)

/-- The configuration in the file asked for, else in the default file of a directory if there is
one, else the built-in one. -/
def load (t : FileTree) (cwd : Place) (asked : Option Path) (dir : Path) :
    Except Failure Config := do
  match asked with
  | some p => (← inFile t cwd p).validate
  | none =>
    let p := dir.join ⟨defaultName⟩
    if t.isFile cwd p then (← inFile t cwd p).validate else .ok {}

end Config

end BuildRunner
