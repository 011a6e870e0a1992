import BuildRunner.Files.Tree
import BuildRunner.Process.Event
import BuildRunner.Shell.Bytes
import BuildRunner.Shell.Statement

/-!
The state of a running script, on a clock that counts microseconds and moves on with every command.
What all processes of a script share is kept apart from what each of them has for itself: its
variables, its directory, its descriptors and its clock. A process that is not waited for runs to
its end before its starter goes on, but its own clock says when it did what.
-/

namespace BuildRunner.Shell

/-- What a descriptor leads to. -/
inductive Channel where
  /-- The standard output or error of the whole script. -/
  | pipe (s : Stream)
  /-- Nothing is kept, and nothing is read. -/
  | void
  /-- What is written is collected for somebody. -/
  | store (index : Nat)
  /-- What was collected is read. -/
  | source (index : Nat)
  /-- What is written goes to the end of a file. -/
  | file (at_ : Place)
  deriving DecidableEq, Repr, Inhabited

/-- Something written: by which process, and when. -/
structure Write where
  time : Nat
  pid : Nat
  stream : Stream
  text : String
  deriving Repr, Inhabited

/-- How a process ended: with a status, or by a signal. -/
inductive Ending where
  | status (n : Nat)
  | signal (n : Nat)
  deriving DecidableEq, Repr, Inhabited

namespace Ending

/-- An ending as the number that scripts see. -/
def number : Ending → Nat
  | status n => n
  | signal n => 128 + n

end Ending

/-- A process that is not waited for. -/
structure Job where
  pid : Nat
  parent : Nat
  /-- When it ends; none if it is not seen to end. -/
  ends : Option Nat
  ending : Ending
  deriving Repr, Inhabited

/-- What the processes of a script share. -/
structure Shared where
  tree : FileTree
  /-- What was written to the pipes, last one first. -/
  writes : List Write := []
  /-- What was collected, with the times, last one first. -/
  stores : Array (List (Nat × String)) := #[]
  /-- What can be read, with the times from which on. -/
  sources : Array (List (Nat × String)) := #[]
  /-- Until when some process can write to a pipe. -/
  stdoutHeld : Nat := 0
  stderrHeld : Nat := 0
  jobs : List Job := []
  /-- Processes that a signal was sent to from inside them, with its number. -/
  doomed : List (Nat × Nat) := []
  nextPid : Nat := 4243
  /-- How many commands may still be run. -/
  budget : Nat := 400000

/-- A variable. -/
structure Variable where
  value : String
  isExported : Bool := false
  isReadOnly : Bool := false
  deriving Repr, Inhabited

/-- What a process has for itself. -/
structure Local where
  clock : Nat := 0
  pid : Nat := 4242
  /-- The process of the script, even inside others. -/
  scriptPid : Nat := 4242
  name : String
  positional : List String := []
  bindings : List (String × Variable) := []
  functions : List (String × Statement) := []
  directory : Place := []
  channels : List (Nat × Channel) := []
  status : Nat := 0
  lastJob : Option Nat := none
  /-- The line of the current command. -/
  line : Nat := 1
  /-- The letters of the options that are set. -/
  options : List Char := []
  traps : List (String × String) := []
  /-- Whether a failing command is part of a condition, and so no reason to end. -/
  isTested : Bool := false
  /-- How many loops are around the current command. -/
  loops : Nat := 0
  /-- Whether the words of the current command have run a script. -/
  hasOutput : Bool := false
  /-- The variables that are local to the function that runs, with what they were outside. -/
  locals : List (String × Option Variable) := []

/-- A running script. -/
structure Machine where
  shared : Shared
  mine : Local

/-- Why a command does not end in the ordinary way. -/
inductive Flow where
  | leaveLoops (n : Nat)
  | nextRound (n : Nat)
  | returned (status : Nat)
  | exited (status : Nat)
  | killed (signal : Nat)
  /-- It is not seen to end. -/
  | endless
  deriving DecidableEq, Repr, Inhabited

/-- Something a running script does. -/
abbrev Act := ExceptT Flow (StateM Machine)

namespace Act

/-- What the process has for itself. -/
def mine : Act Local := do return (← get).mine

/-- A change of what the process has for itself. -/
def change (f : Local → Local) : Act Unit := modify fun m => { m with mine := f m.mine }

/-- What the processes share. -/
def shared : Act Shared := do return (← get).shared

/-- A change of what the processes share. -/
def share (f : Shared → Shared) : Act Unit := modify fun m => { m with shared := f m.shared }

/-- The status of the last command set. -/
def setStatus (n : Nat) : Act Unit := change fun l => { l with status := n }

/-- Something done, and how its way out of the ordinary looks. -/
def attempt {α : Type} (act : Act α) : Act (Except Flow α) := ExceptT.lift act.run

/-! ### Time -/

/-- The moment up to which scripts are followed: ten minutes. -/
def horizon : Nat := 600 * 1000000

/-- Pipes held by the process until its present moment. -/
def hold (m : Machine) : Machine :=
  let t := m.mine.clock
  let leads (s : Stream) : Bool := m.mine.channels.any fun c => c.2 = .pipe s
  let held (s : Stream) (old : Nat) : Nat := if leads s then max old t else old
  { m with shared := { m.shared with
      stdoutHeld := held .stdout m.shared.stdoutHeld
      stderrHeld := held .stderr m.shared.stderrHeld } }

/-- The clock moved to a later moment. -/
def moveTo (t : Nat) : Act Unit := do
  modify fun m => hold { m with mine := { m.mine with clock := max m.mine.clock t } }
  if horizon < t then throw .endless

/-- The clock moved on. -/
def spend (micros : Nat) : Act Unit := do moveTo ((← mine).clock + micros)

/-- One command more, which takes some time. -/
def tick (micros : Nat) : Act Unit := do
  if (← shared).budget = 0 then throw .endless
  share fun s => { s with budget := s.budget - 1 }
  spend micros

/-! ### Writing and reading -/

/-- Text written to a channel. -/
def writeTo (c : Channel) (text : String) : Act Unit := do
  if text = "" then return
  let l ← mine
  match c with
  | .pipe s => share fun w => { w with writes := ⟨l.clock, l.pid, s, text⟩ :: w.writes }
  | .store i => share fun w =>
      { w with stores := w.stores.modify i fun t => (l.clock, text) :: t }
  | .file p => share fun w =>
      let (old, isExecutable) := match w.tree.entry? p with
        | some (.file _ f) => (f.bytes, f.executable)
        | _ => ([], false)
      { w with tree := w.tree.addFile p ⟨old ++ toBytes text, isExecutable⟩ }
  | _ => return

/-- The channel of a descriptor. -/
def channel? (n : Nat) : Act (Option Channel) := do return (← mine).channels.lookup n

/-- Text written to a descriptor. -/
def write (n : Nat) (text : String) : Act Unit := do
  match ← channel? n with
  | some c => writeTo c text
  | none => return

/-- Text written to the standard output. -/
def say (text : String) : Act Unit := write 1 text

/-- A complaint, with the name of the script and the line in front. -/
def complain (text : String) : Act Unit := do
  let l ← mine
  write 2 (l.name ++ ": " ++ toString l.line ++ ": " ++ text ++ "\n")

/-- A new place for what is written. -/
def newStore : Act Nat := do
  let n := (← shared).stores.size
  share fun s => { s with stores := s.stores.push [] }
  return n

/-- A new place for what is read, line by line, which ends at some moment. -/
def newSource (content : List (Nat × String)) (ends : Nat) : Act Nat := do
  let n := (← shared).sources.size
  let pieces := content.flatMap fun e => (inLines e.2).map fun l => (e.1, l)
  share fun s => { s with sources := s.sources.push (pieces ++ [(ends, "")]) }
  return n

/-- The pieces collected in a place, in order of time. -/
def collected (i : Nat) : Act (List (Nat × String)) := do
  let pieces := ((← shared).stores[i]?.getD []).reverse
  return pieces.mergeSort fun a b => a.1 ≤ b.1

/-- The next piece of the standard input, waited for. -/
def readPiece : Act (Option String) := do
  match ← channel? 0 with
  | some (.source i) =>
    match (← shared).sources[i]?.getD [] with
    | [] => return none
    | (t, text) :: rest =>
      share fun s => { s with sources := s.sources.modify i fun _ => rest }
      moveTo t
      return some text
  | _ => return none

/-- Text put back to the front of the standard input. -/
def putBack (text : String) : Act Unit := do
  if text = "" then return
  match ← channel? 0 with
  | some (.source i) =>
    let t := (← mine).clock
    share fun s => { s with sources := s.sources.modify i fun r => (t, text) :: r }
  | _ => return

/-- All that is left of the standard input. -/
def readAll : (fuel : Nat) → Act String
  | 0 => return ""
  | fuel + 1 => do
    match ← readPiece with
    | none => return ""
    | some text => return text ++ (← readAll fuel)

/-- How many pieces of the standard input are left. -/
def piecesLeft : Act Nat := do
  match ← channel? 0 with
  | some (.source i) => return ((← shared).sources[i]?.getD []).length
  | _ => return 0

/-- A line of the standard input, and whether a newline ended it. -/
def readLine : (fuel : Nat) → Act (String × Bool)
  | 0 => return ("", false)
  | fuel + 1 => do
    match ← readPiece with
    | none => return ("", false)
    | some text =>
      let cs := text.toList
      let line := cs.takeWhile (· ≠ '\n')
      match cs.drop line.length with
      | _ :: rest =>
        putBack (String.ofList rest)
        return (String.ofList line, true)
      | [] =>
        let (more, isWhole) ← readLine fuel
        return (text ++ more, isWhole)

/-! ### Variables -/

/-- The value of a variable. -/
def valueOf? (name : String) : Act (Option String) := do
  return ((← mine).bindings.lookup name).map (·.value)

/-- A variable given a value; it stays exported if it was. -/
def assign (name value : String) : Act Unit := do
  let old := (← mine).bindings.lookup name
  if (old.map (·.isReadOnly)).getD false then
    complain (name ++ ": is read only")
    throw (.exited 2)
  let isExported := (old.map (·.isExported)).getD ((← mine).options.contains 'a')
  change fun l => { l with
    bindings := (name, { value, isExported }) :: l.bindings.filter fun v => v.1 ≠ name }

/-- A variable taken away. -/
def unset (name : String) : Act Unit :=
  change fun l => { l with bindings := l.bindings.filter fun v => v.1 ≠ name }

/-- Whether an option is set. -/
def hasOption (c : Char) : Act Bool := do return (← mine).options.contains c

/-! ### Files -/

/-- What a path leads to from the directory of the process. -/
def entry? (path : String) : Act (Except FileError Entry) := do
  return (← shared).tree.find (← mine).directory ⟨toText path⟩

/-- The place that a path names from the directory of the process, whether or not there is
something. -/
def placeOf (path : String) : Act Place := do
  let here := (← mine).directory
  let path : Path := ⟨toText path⟩
  let start := if path.isAbsolute then [] else here
  return path.components.foldl (fun (p : Place) c => match c with
    | .up => p.dropLast
    | .name s => p ++ [s]
    | _ => p) start

end Act

/-! ### Processes inside the script -/

/-- The ending of a process that did something. -/
def Ending.ofFlow (l : Local) : Except Flow Unit → Except Flow Ending
  | .ok () => .ok (.status l.status)
  | .error (.exited n) => .ok (.status n)
  | .error (.returned n) => .ok (.status n)
  | .error (.killed n) => .ok (.signal n)
  | .error .endless => .error .endless
  | .error _ => .ok (.status l.status)

namespace Act

/-- A descriptor made to lead elsewhere. -/
def lead (n : Nat) (c : Channel) : Act Unit :=
  change fun l => { l with channels := (n, c) :: l.channels.filter fun e => e.1 ≠ n }

/-- A process of its own that does something: its ending, and what it had when it was over. -/
def child (delay : Nat) (act : Act Unit) : Act (Except Flow Ending × Local) := do
  let m ← get
  let pid := m.shared.nextPid
  let start : Machine := {
    shared := { m.shared with nextPid := pid + 1 }
    mine := { m.mine with pid, clock := m.mine.clock + delay, traps := [] } }
  let (r, m') := act.run start
  let m' := hold m'
  set { m' with mine := m.mine }
  return (Ending.ofFlow m'.mine r, m'.mine)

/-- What is said of a process that was ended by a signal. -/
def lament (e : Ending) : Act Unit := do
  match e with
  | .signal 1 => write 2 "Hangup\n"
  | .signal 3 => write 2 "Quit\n"
  | .signal 6 => write 2 "Aborted\n"
  | .signal 9 => write 2 "Killed\n"
  | .signal 11 => write 2 "Segmentation fault\n"
  | .signal 14 => write 2 "Alarm clock\n"
  | .signal 15 => write 2 "Terminated\n"
  | _ => return

/-- A process that is waited for. -/
def inChild (act : Act Unit) : Act Ending := do
  let (r, l) ← child 0 act
  match r with
  | .error f => throw f
  | .ok e =>
    moveTo l.clock
    match (← shared).doomed.lookup (← mine).pid with
    | some signal => throw (.killed signal)
    | none =>
      lament e
      return e

/-- A process that is not waited for. -/
def inBackground (act : Act Unit) : Act Nat := do
  let parent := (← mine).pid
  let (r, l) ← child 300 act
  let job : Job := match r with
    | .ok e => ⟨l.pid, parent, some l.clock, e⟩
    | .error _ => ⟨l.pid, parent, none, .status 0⟩
  share fun s => { s with jobs := job :: s.jobs }
  change fun m => { m with lastJob := some l.pid, status := 0 }
  return l.pid

end Act

end BuildRunner.Shell
