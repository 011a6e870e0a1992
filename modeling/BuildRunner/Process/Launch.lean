import BuildRunner.Process.Command
import BuildRunner.Shell.Trace

/-!
Commands started: whether the system can start them, and what they do then. A program with a slash
in its name is looked for from its working directory, any other one among those of the system. A
working directory that is not there counts before all else.
-/

namespace BuildRunner

/-- The files that are on every system. -/
def FileTree.usual : FileTree :=
  let directories : List Place := [["bin"], ["dev"], ["etc"], ["root"], ["sbin"], ["tmp"],
    ["usr", "bin"], ["usr", "local", "bin"], ["usr", "sbin"], ["var"]]
  (directories.foldl FileTree.addDirectory FileTree.empty).addFile ["dev", "null"] ⟨[], false⟩

/-- The outside of a run: the files, and the variables that programs find beside the usual ones. -/
structure Surroundings where
  tree : FileTree
  directory : Place
  bindings : List (String × String)

namespace Surroundings

open Shell

/-- What the system says about a file as a program. -/
def fileFault? (w : Surroundings) (at_ : Place) (f : File) : Option SystemError :=
  if !f.executable then some .permissionDenied
  else match Evaluation.interpreter? f.bytes with
    | none => some (.ofNumber 8)
    | some words =>
      let interpreter := words.headD ""
      if (Evaluation.systemName? interpreter).isSome then none
      else match w.tree.find at_ ⟨toText interpreter⟩ with
        | .ok (.file _ g) => if g.executable then none else some .permissionDenied
        | .ok (.directory _) => some .permissionDenied
        | .error _ => some .notFound

/-- What the system says about a program from a directory. -/
def programFault? (w : Surroundings) (at_ : Place) (program : String) : Option SystemError :=
  if program.toList.contains '/' then
    if (Evaluation.systemName? program).isSome then none
    else match w.tree.find at_ ⟨program⟩ with
      | .ok (.file _ f) => w.fileFault? at_ f
      | .ok (.directory _) => some .permissionDenied
      | .error .notDirectory => some (.ofNumber 20)
      | .error _ => some .notFound
  else if Evaluation.isOnSystem program then none
  else if program = "." || program = ".." then some .permissionDenied
  else some .notFound

/-- Whether a text cannot be handed to the system. -/
def hasNul (s : String) : Bool := s.toList.contains (Char.ofNat 0)

/-- The place of a working directory. -/
def place? (w : Surroundings) (cwd : Path) : Option Place :=
  match w.tree.find w.directory cwd with
  | .ok (.directory p) => some p
  | _ => none

/-- A command started: what it does, or why it could not be started. -/
def launch (w : Surroundings) (c : Command) : Except StartError Trace :=
  match w.place? c.cwd with
  | none =>
    .error (.other c.program ("working directory " ++ c.cwd.text ++ " does not exist"))
  | some at_ =>
    if hasNul c.program || c.args.any hasNul then
      .error (.other c.program "nul byte found in provided data")
    else match w.programFault? at_ c.program with
      | some e => .error (.ofSystem c.program e)
      | none =>
        .ok (trace w.tree at_ (w.bindings.map fun e => (e.1, ofText e.2))
          ((c.program :: c.args).map ofText))

/-- Whether a command can be started and ends well. -/
def supports (w : Surroundings) (c : Command) : Bool :=
  match w.launch c with
  | .ok t => (t.ends.map (·.2)) == some (some 0)
  | .error _ => false

/-- The surroundings after a command has run. -/
def after (w : Surroundings) (c : Command) : Surroundings :=
  match w.launch c with
  | .ok t => { w with tree := t.tree }
  | .error _ => w

end Surroundings

end BuildRunner
