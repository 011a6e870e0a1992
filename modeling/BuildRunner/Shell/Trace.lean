import BuildRunner.Shell.Evaluation

/-!
What a program that is started does: what it writes and when, how and when it ends, and when the
pipes it writes to are closed by the last process that holds them.
-/

namespace BuildRunner

/-- What a started program does, from the moment it is started. -/
structure Trace where
  /-- What it writes, in order of time. -/
  writes : List (Instant × Stream × List UInt8)
  /-- When it ends and with what exit code; none if it is not seen to end. -/
  ends : Option (Instant × Option Int)
  /-- When nobody can write to a stream any more; none if that is not seen. -/
  closes : Stream → Option Instant
  /-- The files when all is over. -/
  tree : FileTree

namespace Shell

/-- The variables that a program finds. -/
def usualVariables (directory : Place) : List (String × String) :=
  [("HOME", "/root"), ("PATH", "/usr/local/bin:/usr/bin:/bin"),
    ("PWD", ofText (Place.path directory).text)]

/-- The machine on which a program starts. -/
def initial (t : FileTree) (directory : Place) (environment : List (String × String)) :
    Machine where
  shared := { tree := t }
  mine := {
    name := "sh"
    directory
    bindings := (environment ++ usualVariables directory).map fun e =>
      (e.1, { value := e.2, isExported := true })
    channels := [(0, .void), (1, .pipe .stdout), (2, .pipe .stderr)] }

/-- How deep tasks may stand inside others. -/
def depth : Nat := 2000

/-- The instant of a moment of the clock. -/
def instant (micros : Nat) : Instant := ⟨micros * 1000⟩

/-- What a program does. -/
def trace (t : FileTree) (directory : Place) (environment : List (String × String))
    (argv : List String) : Trace :=
  let act : Act Unit := Evaluation.within depth (.program argv)
  let (r, m) := act.run (initial t directory environment)
  let m := Act.hold m
  let ends := match Ending.ofFlow m.mine r with
    | .ok (.status n) => some (instant m.mine.clock, some (n % 256 : Int))
    | .ok (.signal _) => some (instant m.mine.clock, none)
    | .error _ => none
  let closes (s : Stream) : Option Instant :=
    let held := match s with
      | .stdout => m.shared.stdoutHeld
      | .stderr => m.shared.stderrHeld
    if Act.horizon < held then none else some (instant held)
  let writes := m.shared.writes.reverse.mergeSort fun a b => a.time ≤ b.time
  { writes := writes.map fun w => (instant w.time, w.stream, toBytes w.text)
    ends, closes, tree := m.shared.tree }

end Shell

end BuildRunner
