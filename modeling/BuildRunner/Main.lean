import BuildRunner.Application

/-!
The program itself: it takes in its arguments and the files below and around the current directory,
carries the command line out among them, and prints what comes of it.
-/

namespace BuildRunner.Program

/-- How deep files are taken in. -/
def depth : Nat := 6

/-- A directory as the system knows it. -/
def directoryAt (p : Place) : IO.FS.DirEntry := ⟨(Place.path p).text, "."⟩

/-- The files of a directory put into a tree, down to a depth. A file that names its interpreter is
taken for a program. -/
def takeIn : (depth : Nat) → Place → FileTree → IO FileTree
  | 0, _, t => return t
  | depth + 1, p, t => do
    let found ← (directoryAt p).path.readDir.toBaseIO
    let mut t := t.addDirectory p
    for e in found.toOption.getD #[] do
      let q := p ++ [e.fileName]
      match ← (IO.FS.readBinFile (Place.path q).text).toBaseIO with
      | .ok bytes =>
        let bytes := bytes.toList
        t := t.addFile q ⟨bytes, [35, 33].isPrefixOf bytes⟩
      | .error _ => t ← takeIn depth q t
    return t

/-- The directories around a place, each with its own files. -/
def takeInAround (p : Place) (t : FileTree) : IO FileTree :=
  (List.range p.length).foldlM (fun t n => takeIn 1 (p.take n) t) t

/-- What the program finds around it. -/
def surroundings (log : Option String) : IO Surroundings := do
  let place := Path.place ⟨(← IO.currentDir).toString⟩
  let t ← takeInAround place FileTree.usual
  return ⟨← takeIn depth place t, place, log.toList.map fun v => ("BUILDPIPE_LOG", v)⟩

/-- How the program is used. -/
def usage : String :=
  "Usage: buildpipe [--config PATH] [--cwd DIR] [--executable EXE] [--log-level LEVEL] " ++
    "[--no-diagnostics] [--dry-run] VERB [ARGS]..."

/-- A command line that is not carried out: its exit code. -/
def refuse (r : CommandLine.Refusal) : IO UInt32 := do
  match r with
  | .displayVersion => IO.println CommandLine.version; return 0
  | .displayHelp => IO.println usage; return 0
  | _ => IO.eprintln usage; return 2

end BuildRunner.Program

/-- The exit code of the program for its arguments. -/
def main (args : List String) : IO UInt32 := do
  match BuildRunner.CommandLine.parse args with
  | .error r => BuildRunner.Program.refuse r
  | .ok line =>
    let w ← BuildRunner.Program.surroundings (← IO.getEnv "BUILDPIPE_LOG")
    let (code, out, err) := (BuildRunner.Application.run w line none).shown
    for l in out do
      IO.println l
    for l in err do
      IO.eprintln l
    return UInt32.ofNat (code.emod 256).toNat
