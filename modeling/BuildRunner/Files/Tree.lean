import BuildRunner.Error
import BuildRunner.Path
import BuildRunner.Text.Utf8

/-!
A tree of files, and paths followed through it. A path is followed step by step from the root or
from a current directory: what is not a directory cannot be gone through, not even by `.` or a
trailing slash.
-/

namespace BuildRunner

/-- A file: its bytes, and whether it may be run. -/
structure File where
  bytes : List UInt8
  executable : Bool
  deriving Repr, Inhabited

/-- The way from the root to a place, the names in order. -/
abbrev Place := List String

/-- Directories and files by their places. The root is always there. -/
structure FileTree where
  directories : List Place
  files : List (Place × File)
  deriving Repr, Inhabited

/-- What a path leads to. -/
inductive Entry where
  | directory (at_ : Place)
  | file (at_ : Place) (f : File)
  deriving Repr

namespace FileTree

/-- The tree with nothing but a root. -/
def empty : FileTree := ⟨[], []⟩

/-- What is at a place. -/
def entry? (t : FileTree) (p : Place) : Option Entry :=
  if p = [] ∨ t.directories.contains p then some (.directory p)
  else (t.files.find? fun e => e.1 = p).map fun e => .file p e.2

/-- The place, and all places on the way to it, as directories. -/
def addDirectory (t : FileTree) (p : Place) : FileTree :=
  let ways := (List.range p.length).map fun n => p.take (n + 1)
  { t with directories := t.directories ++ ways.filter fun w => !t.directories.contains w }

/-- A file put at a place, in the stead of one that was there. -/
def addFile (t : FileTree) (p : Place) (f : File) : FileTree :=
  let t := t.addDirectory p.dropLast
  { t with files := (p, f) :: t.files.filter fun e => e.1 ≠ p }

/-- The tree without the file at a place. -/
def removeFile (t : FileTree) (p : Place) : FileTree :=
  { t with files := t.files.filter fun e => e.1 ≠ p }

/-- One step of a path from an entry. -/
def follow (t : FileTree) (e : Entry) (piece : List Char) : Except FileError Entry :=
  match e with
  | .file _ _ => .error .notDirectory
  | .directory at_ =>
    if piece = [] ∨ piece = ['.'] then .ok e
    else if piece = ['.', '.'] then .ok (.directory at_.dropLast)
    else match t.entry? (at_ ++ [String.ofList piece]) with
      | some e => .ok e
      | none => .error .notFound

/-- What a path leads to from a current directory. -/
def find (t : FileTree) (cwd : Place) (p : Path) : Except FileError Entry :=
  if p.text = "" then .error .notFound
  else if p.text.toList.contains (Char.ofNat 0) then .error .nameWithNul
  else
    let start : Entry := if p.isAbsolute then .directory [] else .directory cwd
    p.pieces.foldlM t.follow start

/-- Whether a path leads to a directory. -/
def isDirectory (t : FileTree) (cwd : Place) (p : Path) : Bool :=
  match t.find cwd p with
  | .ok (.directory _) => true
  | _ => false

/-- Whether a path leads to a file. -/
def isFile (t : FileTree) (cwd : Place) (p : Path) : Bool :=
  match t.find cwd p with
  | .ok (.file _ _) => true
  | _ => false

/-- The bytes of the file that a path leads to. -/
def readBytes (t : FileTree) (cwd : Place) (p : Path) : Except FileError (List UInt8) := do
  match ← t.find cwd p with
  | .directory _ => .error .isDirectory
  | .file _ f => .ok f.bytes

/-- The text of the file that a path leads to. -/
def readText (t : FileTree) (cwd : Place) (p : Path) : Except FileError String := do
  match Text.Utf8.decode? (← t.readBytes cwd p) with
  | some cs => .ok (String.ofList cs)
  | none => .error .notUtf8

end FileTree

/-- The path of a place, from the root. -/
def Place.path (p : Place) : Path := ⟨"/" ++ "/".intercalate p⟩

/-- The place that an absolute path names, without following it. -/
def Path.place (p : Path) : Place :=
  p.components.filterMap fun
    | .name s => some s
    | _ => none

end BuildRunner
