import BuildRunner.Process.Live

/-!
A process watched to its end by somebody who answers to its lines: the process is told to end, or
its handle is let go, or its reports are not listened to any more.
-/

namespace BuildRunner

/-- What an observer does. -/
structure Watch where
  /-- The line at which the process is told to end, twice. -/
  killOn : Option String := none
  /-- The line at which the handle is let go. -/
  dropOn : Option String := none
  /-- The line behind which nothing is listened to. -/
  closeOn : Option String := none

/-- What an observer has seen. -/
structure Sighting where
  starts : Nat := 0
  stdout : List String := []
  stderr : List String := []
  /-- What each request to end the process came to. -/
  kills : List Bool := []
  terminal : Option Happening := none
  /-- Whether the observer still listens. -/
  listens : Bool := true
  /-- Whether the handle is still held. -/
  holds : Bool := true

namespace Watch

/-- A report seen at some moment, and answered. -/
def see (w : Watch) (now : Instant) (p : Live) (s : Sighting) (h : Happening) : Live × Sighting :=
  if !s.listens then (p, s)
  else match h with
    | .started _ => (p, { s with starts := s.starts + 1 })
    | .exited code => (p, { s with terminal := some (.exited code) })
    | .failed e => (p, { s with terminal := some (.failed e) })
    | .line stream text =>
      let s := match stream with
        | .stdout => { s with stdout := s.stdout ++ [text] }
        | .stderr => { s with stderr := s.stderr ++ [text] }
      let (p, s) : Live × Sighting :=
        if w.killOn = some text && s.holds then
          let (p, first) := p.kill now
          let (p, second) := p.kill now
          (p, { s with kills := s.kills ++ [first, second] })
        else (p, s)
      let (p, s) : Live × Sighting :=
        if w.dropOn = some text then (p.terminate now, { s with holds := false }) else (p, s)
      (p, if w.closeOn = some text then { s with listens := false } else s)

/-- Reports seen one after the other. -/
def seeAll (w : Watch) (now : Instant) (p : Live) (s : Sighting) (hs : List Happening) :
    Live × Sighting :=
  hs.foldl (fun (p, s) h => w.see now p s h) (p, s)

/-- A process followed to its end. -/
def follow (w : Watch) : (fuel : Nat) → Live → Sighting → Live × Sighting
  | 0, p, s => (p, s)
  | fuel + 1, p, s =>
    match p.next with
    | none => (p, s)
    | some (now, hs, p) =>
      let (p, s) := w.seeAll now p s hs
      follow w fuel p s

/-- All that is seen of a process that does what a trace holds. When it is over it is told to end
once more, if its handle is still held. -/
def run (w : Watch) (heard : Bool) (task : TaskId) (t : Trace) : Sighting :=
  let (p, hs) := Live.start heard task t
  let (p, s) := w.seeAll ⟨0⟩ p { listens := heard } hs
  let (p, s) := w.follow p.effort p s
  if s.holds then { s with kills := s.kills ++ [p.handle.kill.2] } else s

end Watch

end BuildRunner
