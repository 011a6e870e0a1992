import BuildRunner.Run.Session

/-!
A session run against a script: a loop that takes requests first, then prepared runs, then reports
of processes, and lets a run be prepared when none of these is left; beside it scripted answers in
place of the world outside, and a clock that only moves when it is told to.
-/

namespace BuildRunner

/-- What stands in for the world outside. -/
structure Script where
  /-- The working directories of the next runs; the last one stays. -/
  directories : List (Except DirectoryError Path)
  /-- Whether a probe with these arguments goes well. -/
  supports : List String → Bool
  /-- What a process reports as soon as it is started. -/
  onSpawn : List Happening
  /-- Whether a process that is told to end reports its exit at once. -/
  exitsOnKill : Bool

/-- The loop around a session. -/
structure Rehearsal where
  session : Session
  script : Script
  /-- Requests not taken yet. -/
  requests : List Event
  /-- Whether nobody can make requests any more. -/
  abandoned : Bool
  /-- Runs to be prepared. -/
  preparations : List Preparation
  /-- Prepared runs not taken yet. -/
  prepared : List Event
  /-- Reports of processes not taken yet. -/
  reports : List ProcessEvent
  /-- The processes started so far. -/
  spawned : List (TaskId × Command)
  /-- The clock, in milliseconds. -/
  clock : Nat
  /-- The time of the last report from outside. -/
  lastReport : Instant
  /-- After a shutdown: the task whose end is waited for, and until when. -/
  closing : Option (TaskId × Nat)
  /-- Whether the loop is over. -/
  ended : Bool

namespace Rehearsal

/-- How long a shutdown waits for a process to end, in milliseconds. -/
def shutdownGrace : Nat := 2000

/-- The loop before the first request. -/
def new (session : Session) (script : Script) : Rehearsal :=
  { session, script, requests := [], abandoned := false, preparations := [], prepared := []
    reports := [], spawned := [], clock := 0, lastReport := ⟨0⟩, closing := none, ended := false }

/-- What the script answers to an effect. -/
def react (r : Rehearsal) : Effect → Rehearsal
  | .spawn task command =>
    { r with
      spawned := r.spawned ++ [(task, command)]
      reports := r.reports ++ r.script.onSpawn.map (⟨task, r.lastReport, ·⟩) }
  | .kill task =>
    if r.script.exitsOnKill then
      { r with reports := r.reports ++ [⟨task, r.lastReport, .exited none⟩] }
    else r
  | _ => r

/-- The time of day in banners, which no script depends on. -/
def timeOfDay : String := "00:00:00"

/-- An event handled. A shutdown ends the loop, or lets it wait for the live task. -/
def handle (r : Rehearsal) (e : Event) : Rehearsal × List Effect :=
  let (h, goesOn) := r.session.handle timeOfDay e
  let r := { r with session := h.session, preparations := r.preparations ++ h.preparations }
  let r := h.effects.foldl react r
  let r :=
    if goesOn then r
    else match h.session.core.slot.liveTask with
      | none => { r with ended := true }
      | some task => { r with closing := some (task, r.clock + shutdownGrace) }
  (r, h.effects)

/-- The next run to be prepared. -/
def prepare (r : Rehearsal) (p : Preparation) (rest : List Preparation) :
    Rehearsal × List Effect :=
  let (cwd, directories) := match r.script.directories with
    | [] => (.error (.other ""), [])
    | [dir] => (dir, [dir])
    | dir :: rest => (dir, rest)
  let (session, event, effects) := r.session.prepare (r.script.supports ·.args) p cwd
  ({ r with
      session, preparations := rest, prepared := r.prepared ++ [event]
      script := { r.script with directories } }, effects)

/-- A run prepared when there is one to prepare. -/
def idle (r : Rehearsal) : Option (Rehearsal × List Effect) :=
  match r.preparations with
  | [] => none
  | p :: rest => some (r.prepare p rest)

/-- The next thing that the loop does: none when nothing is left to do. -/
def turn (r : Rehearsal) : Option (Rehearsal × List Effect) :=
  if r.ended then r.idle
  else match r.closing with
    | some (task, _) =>
      match r.reports with
      | [] => r.idle
      | e :: rest =>
        let isLast := e.task == task && e.what.isTerminal
        some ({ r with reports := rest, ended := isLast }, [])
    | none =>
      match r.requests with
      | e :: rest => some ({ r with requests := rest }.handle e)
      | [] =>
        if r.abandoned then some (r.handle .shutdownRequested)
        else match r.prepared with
          | e :: rest => some ({ r with prepared := rest }.handle e)
          | [] =>
            match r.reports with
            | e :: rest => some ({ r with reports := rest }.handle (.process e))
            | [] => r.idle

/-- A bound on what is left to do: each turn takes up one thing and leaves lesser ones behind. A
request may lead to a kill and a run that waits, that run to a preparation, and so on. -/
def effort (r : Rehearsal) : Nat :=
  let n := r.script.onSpawn.length
  let waiting := match r.session.core.slot with
    | .stopping _ _ _ (some _) => n + 2
    | _ => 0
  let closing := if r.abandoned then n + 4 else 0
  (n + 4) * r.requests.length + closing + (n + 2) * r.preparations.length +
    (n + 1) * r.prepared.length + r.reports.length + waiting

/-- Turns until nothing is left to do, at most `fuel` of them. -/
def run : (fuel : Nat) → Rehearsal → List Effect → Rehearsal × List Effect
  | 0, r, done => (r, done)
  | fuel + 1, r, done =>
    match r.turn with
    | none => (r, done)
    | some (r, effects) => run fuel r (done ++ effects)

/-- Turns until nothing is left to do, and what they did. -/
def settle (r : Rehearsal) : Rehearsal × List Effect := r.run (r.effort + 1) []

/-- The clock moved on. A shutdown that has waited long enough ends the loop. -/
def advance (r : Rehearsal) (ms : Nat) : Rehearsal :=
  let clock := r.clock + ms
  match r.closing with
  | some (_, deadline) => { r with clock, ended := r.ended || deadline < clock }
  | none => { r with clock }

/-- A request made. -/
def submit (r : Rehearsal) (e : Event) : Except Failure Rehearsal :=
  if r.ended then .error .closed else .ok { r with requests := r.requests ++ [e] }

/-- A report from outside. It is lost when the loop is over. -/
def report (r : Rehearsal) (e : ProcessEvent) : Rehearsal :=
  let r := { r with lastReport := e.time }
  if r.ended then r else { r with reports := r.reports ++ [e] }

end Rehearsal

end BuildRunner
