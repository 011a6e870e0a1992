import BuildRunner.Process.Event
import BuildRunner.Process.LineDecoder

/-!
The supervision of one started process. Two readers cut what comes through its pipes into lines;
beside them the end of the process, or a request to end it, is waited for. When the process ends by
itself its readers may go on until their pipes are closed, or until their grace is over; when it
was told to end they are stopped. The end of the process is reported last, and once.
-/

namespace BuildRunner

/-- One of the two readers of a process. Its lines are reported one by one, and it may be stopped
between two of them; what comes through its pipe meanwhile is cut into lines behind the ones that
wait. -/
structure Reader where
  /-- The bytes at hand, as long as the pipe is read. -/
  pipe : Option LineDecoder
  /-- The lines that are complete and have not been reported yet. -/
  waiting : List String
  /-- Whether it was told to stop. It may still be at its last piece or line then. -/
  told : Bool
  deriving Repr, Inhabited

namespace Reader

/-- A reader that has seen nothing yet. -/
def fresh : Reader := ⟨some .empty, [], false⟩

/-- A reader that there is nothing to read for. -/
def gone : Reader := ⟨none, [], false⟩

/-- Whether a reader is over: its pipe is not read any more, and no line waits. -/
def isOver (r : Reader) : Bool := r.pipe.isNone && r.waiting.isEmpty

/-- Whether a reader has not been told to stop and is not over. -/
def isReading (r : Reader) : Bool := !r.told && !r.isOver

/-- A reader after one more piece. -/
def take (piece : List UInt8) (r : Reader) : Reader :=
  match r.pipe with
  | none => r
  | some d => { r with pipe := some (d.push piece).1, waiting := r.waiting ++ (d.push piece).2 }

/-- A reader whose pipe is closed: the line that no newline ended is complete, too. -/
def close (r : Reader) : Reader :=
  match r.pipe with
  | none => r
  | some d => { r with pipe := none, waiting := r.waiting ++ d.finish.2.toList }

/-- A reader that has reported its next line. -/
def report (r : Reader) : Reader := { r with waiting := r.waiting.tail }

/-- A reader told to stop. -/
def stop (r : Reader) : Reader := { r with told := true }

/-- A reader that has stopped, if it was told to. What it had not reported is lost. -/
def leave (r : Reader) : Reader := if r.told then { r with pipe := none, waiting := [] } else r

end Reader

/-- What the supervision of a process is waiting for. -/
inductive Supervision where
  /-- The end of the process, or a request to end it. -/
  | watching
  /-- The end of a process that was told to end. -/
  | ending
  /-- The readers, after the process ended by itself. -/
  | draining (code : Option Int)
  /-- Nothing: the end has been reported. -/
  | finished
  deriving DecidableEq, Repr, Inhabited

/-- A supervised process. -/
structure Supervisor where
  state : Supervision
  stdout : Reader
  stderr : Reader
  deriving Repr, Inhabited

/-- What happens around a supervised process. -/
inductive Supervisor.Input where
  /-- A piece came through a pipe. -/
  | piece (s : Stream) (bytes : List UInt8)
  /-- A pipe was closed at its other end. -/
  | closed (s : Stream)
  /-- A reader got its next line through. -/
  | reported (s : Stream)
  /-- The process ended. -/
  | ended (code : Option Int)
  /-- The process is to be ended: somebody asked, or nobody holds its handle any more. -/
  | kill
  /-- The grace of a pipe after the end of the process is over. -/
  | graceOver (s : Stream)
  /-- A reader that was told to stop has stopped. -/
  | stopped (s : Stream)
  deriving Repr

namespace Supervisor

/-- How long each pipe is read after the process has ended. -/
def grace : Duration := .ofMillis 500

/-- The reader of a stream. -/
def reader (v : Supervisor) : Stream → Reader
  | .stdout => v.stdout
  | .stderr => v.stderr

/-- Another reader for a stream. -/
def withReader (v : Supervisor) (s : Stream) (r : Reader) : Supervisor :=
  match s with
  | .stdout => { v with stdout := r }
  | .stderr => { v with stderr := r }

/-- The supervision of a process that was just started. With nobody to report to the process is
ended at once, and there is nothing to supervise. -/
def start (heard : Bool) (pid : Option Nat) : Supervisor × List Happening :=
  if heard then (⟨.watching, .fresh, .fresh⟩, [.started pid]) else (⟨.finished, .gone, .gone⟩, [])

/-- The stream that is drained: the standard output comes first. -/
def drained? (v : Supervisor) : Option Stream :=
  if v.stdout.isReading then some .stdout
  else if v.stderr.isReading then some .stderr
  else none

/-- The end reported when there is nothing left to drain. -/
def settle (v : Supervisor) : Supervisor × List Happening :=
  match v.state with
  | .draining code =>
    match v.drained? with
    | none => ({ v with state := .finished }, [.exited code])
    | some _ => (v, [])
  | _ => (v, [])

/-- The supervision after a reader has changed, and what is reported. -/
def afterReader (v : Supervisor) (s : Stream) (r : Reader) : Supervisor × List Happening :=
  (v.withReader s r).settle

/-- What one thing that happens makes of the supervision, and what is reported. -/
def step (v : Supervisor) : Input → Supervisor × List Happening
  | .piece s bytes => v.afterReader s ((v.reader s).take bytes)
  | .closed s => v.afterReader s (v.reader s).close
  | .reported s =>
    let w := v.afterReader s (v.reader s).report
    (w.1, (v.reader s).waiting.head?.toList.map (.line s) ++ w.2)
  | .stopped s => v.afterReader s (v.reader s).leave
  | .ended code =>
    match v.state with
    | .watching => settle { v with state := .draining code }
    | .ending => (⟨.finished, v.stdout.stop, v.stderr.stop⟩, [.exited code])
    | _ => (v, [])
  | .kill =>
    match v.state with
    | .watching => ({ v with state := .ending }, [])
    | _ => (v, [])
  | .graceOver s =>
    match v.state with
    | .draining _ => v.afterReader s (v.reader s).stop
    | _ => (v, [])

/-- Things that happen one after the other, and all that is reported. -/
def run (v : Supervisor) : List Input → Supervisor × List Happening
  | [] => (v, [])
  | i :: is =>
    let w := v.step i
    let u := run w.1 is
    (u.1, w.2 ++ u.2)

/-- The reports of all the lines that wait, standard output first. -/
def allReported (v : Supervisor) : List Input :=
  v.stdout.waiting.map (fun _ => .reported .stdout) ++
    v.stderr.waiting.map fun _ => .reported .stderr

/-- All that is reported of a process: why it could not be started, or that it was, and then what
follows from the things that happen around it. -/
def reports (started : Except StartError (Option Nat)) (is : List Input) : List Happening :=
  match started with
  | .error e => [.failed e]
  | .ok pid =>
    let v := start true pid
    v.2 ++ (v.1.run is).2

end Supervisor

end BuildRunner
