import BuildRunner.Process.Backend
import BuildRunner.Process.Supervisor
import BuildRunner.Shell.Trace

/-!
A started process on the clock: what is still to come of it, and its supervision. A process that is
told to end does so at once, with all that it has started.
-/

namespace BuildRunner

/-- A process on the clock. -/
structure Live where
  supervisor : Supervisor
  handle : Handle
  /-- What is to come, in order of time. -/
  agenda : List (Instant × Supervisor.Input)
  /-- The pipe that is drained, and until when. -/
  timer : Option (Stream × Instant)

namespace Live

/-- What is to come of a process, in order of time. -/
def agendaOf (t : Trace) : List (Instant × Supervisor.Input) :=
  let pieces := t.writes.map fun w => (w.1, Supervisor.Input.piece w.2.1 w.2.2)
  let closed (s : Stream) : List (Instant × Supervisor.Input) :=
    (t.closes s).toList.map fun i => (i, .closed s)
  let ended := t.ends.toList.map fun e => (e.1, Supervisor.Input.ended e.2)
  (pieces ++ closed .stdout ++ closed .stderr ++ ended).mergeSort fun a b => a.1 ≤ b.1

/-- A process that does what a trace holds, and what is reported of its start. -/
def start (heard : Bool) (task : TaskId) (t : Trace) : Live × List Happening :=
  let (v, hs) := Supervisor.start heard none
  let handle := if heard then .fresh task else (Handle.fresh task).finish
  (⟨v, handle, if heard then agendaOf t else [], none⟩, hs)

/-- The timer of the pipe that is drained. -/
def timerAt (now : Instant) (v : Supervisor) (timer : Option (Stream × Instant)) :
    Option (Stream × Instant) :=
  match v.state with
  | .draining _ =>
    match v.drained? with
    | none => none
    | some s =>
      match timer with
      | some (r, t) => if r = s then some (r, t) else some (s, now.after Supervisor.grace)
      | none => some (s, now.after Supervisor.grace)
  | _ => none

/-- One thing that happens to a process. Lines are reported at once, and readers that are told to
stop do so at once. -/
def feed (p : Live) (now : Instant) (i : Supervisor.Input) : Live × List Happening :=
  let (v, hs) := p.supervisor.step i
  let (v, hs') := v.run (v.allReported ++ [.stopped .stdout, .stopped .stderr])
  let handle := if v.state = .finished then p.handle.finish else p.handle
  ({ p with supervisor := v, handle, timer := timerAt now v p.timer }, hs ++ hs')

/-- The next thing that happens to a process, when, and what is reported of it. -/
def next (p : Live) : Option (Instant × List Happening × Live) :=
  let due : Option (Instant × Supervisor.Input × List (Instant × Supervisor.Input)) :=
    match p.agenda, p.timer with
    | [], none => none
    | [], some (s, t) => some (t, .graceOver s, [])
    | (t, i) :: rest, none => some (t, i, rest)
    | (t, i) :: rest, some (s, u) =>
      if u < t then some (u, .graceOver s, (t, i) :: rest) else some (t, i, rest)
  due.map fun (t, i, rest) =>
    let (q, hs) := { p with agenda := rest }.feed t i
    (t, hs, q)

/-- A process told to end at some moment. -/
def terminate (p : Live) (now : Instant) : Live :=
  match p.supervisor.state with
  | .watching => { p with
      supervisor := (p.supervisor.step .kill).1
      agenda := [(now, .ended none)]
      timer := none }
  | _ => p

/-- A process told to end by its handle, and whether that reached it. -/
def kill (p : Live) (now : Instant) : Live × Bool :=
  let (handle, isReached) := p.handle.kill
  let p := { p with handle }
  (if isReached then p.terminate now else p, isReached)

/-- A bound on the number of things still to happen: each pipe has one timer. -/
def effort (p : Live) : Nat := p.agenda.length + 4

end Live

end BuildRunner
