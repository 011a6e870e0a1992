import BuildRunner.Files.WorkingDirectory
import BuildRunner.Logging
import BuildRunner.Process.Launch
import BuildRunner.Process.Live
import BuildRunner.Diagnostic.Display
import BuildRunner.Run.Log
import BuildRunner.Text.Lines
import BuildRunner.Text.Quoted

/-!
The program as a whole: a command line carried out among given files. The configuration is looked
for in the working directory, or where the program was started if there is none. A dry run only
shows what would be run. A real one is a session with one request, followed to its end; an interrupt
asks for the run to be stopped.
-/

namespace BuildRunner

/-- What the program did, seen from outside. -/
structure Report where
  /-- The exit code, or what kept the run from being set up. -/
  result : Except Failure Int
  stdout : List String := []
  stderr : List String := []
  log : List LogLevel := []

namespace Application

/-! ### What is printed -/

/-- The line that tells of a failure. -/
def errorLine (message : String) : String := "buildpipe error: " ++ message

/-- The lines that a failure is printed in; that of a file names its cause once more. -/
def failureLines (e : Failure) : List String :=
  errorLine e.message :: match e with
    | .file f => ["", "Caused by:", "    " ++ f.message]
    | _ => []

/-- The lines of a dry run. -/
def dryRunLines (c : Config) (i : Invocation) : List String :=
  ["buildpipe dry-run",
    "  verb: " ++ i.verb.text,
    "  cwd: " ++ i.command.cwd.text,
    "  command: " ++ i.command.line,
    "  argv: " ++ Text.quotedList i.command.args,
    "  structured output: " ++ toString i.structured] ++
  i.verb.probe.toList.map fun rule =>
    "  probe: " ++ c.executable ++ " " ++ " ".intercalate rule.args ++ " (fallback: " ++
      rule.fallback ++ ")"

/-! ### A run -/

/-- How the one run of the program ended. -/
inductive RunEnd where
  | finished (o : Outcome)
  | rejected
  deriving DecidableEq, Repr

/-- The exit code for the end of a run. -/
def RunEnd.exitCode : RunEnd → Int
  | finished o => o.exitCode
  | rejected => 2

/-- The program while its run goes on. -/
structure Running where
  surroundings : Surroundings
  session : Session
  console : Console := .empty
  live : Option Live := none
  /-- Reports about the start of a process, not handled yet. -/
  reports : List ProcessEvent := []
  now : Instant := ⟨0⟩
  stdout : List String := []
  stderr : List String := []
  log : List LogLevel := []
  /-- The line that is answered with an interrupt, and the interrupts under way. -/
  interruptOn : Option String
  interrupts : List Instant := []
  ending : Option RunEnd := none

namespace Running

/-- How long after its line an interrupt comes. -/
def interruptDelay : Duration := .ofMillis 50

/-- Lines printed. -/
def print (r : Running) (lines : List String) : Running :=
  let answered := lines.filter fun l => r.interruptOn = some l
  { r with
    stdout := r.stdout ++ lines
    interrupts := r.interrupts ++ answered.map fun _ => r.now.after interruptDelay }

/-- A process started for a task, or reported as failed. -/
def spawn (r : Running) (task : TaskId) (c : Command) : Running × List Happening :=
  let started := r.surroundings.launch c
  ({ r with live := started.toOption.map fun t => (Live.start true task t).1 },
    Supervisor.reports (started.map fun _ => none) [])

/-- An effect carried out. What the start of a process reports is to be handled next. -/
def carryOut (r : Running) (e : Effect) : Running :=
  let r := { r with log := r.log ++ Session.levelsOfEffect e }
  match e with
  | .probe c => { r with surroundings := r.surroundings.after c }
  | .spawn task c =>
    let (r, hs) := r.spawn task c
    { r with reports := r.reports ++ hs.map fun h => ⟨task, r.now, h⟩ }
  | .kill _ => { r with live := r.live.map fun p => (p.kill r.now).1 }
  | .busy _ => r
  | .output line => r.print [line]
  | .info message => { r with stderr := r.stderr ++ ["buildpipe: " ++ message] }
  | .error message => { r with stderr := r.stderr ++ [errorLine message] }
  | .display u =>
    let (console, lines) := r.console.set u
    { r with console }.print lines
  | .notice (.finished _ _ o _ _) => { r with ending := some (.finished o) }
  | .notice (.rejected _) => { r with ending := some .rejected }
  | .notice (.started _ _ _) => r

/-- The time of day in banners, which says nothing about a run. -/
def timeOfDay : String := "00:00:00"

/-- An event handled, and the runs to be prepared. -/
def handle (r : Running) (e : Event) : Running × List Preparation :=
  let levels := r.session.levelsOfEvent e
  let (h, _) := r.session.handle timeOfDay e
  let r := { r with session := h.session, log := r.log ++ levels }
  (h.effects.foldl carryOut r, h.preparations)

/-- A run prepared, and the outcome of that handled. -/
def prepare (r : Running) (w : WorkingDirectory) (p : Preparation) : Running :=
  let cwd := w.find r.surroundings.tree r.surroundings.directory
  let (session, event, effects) := r.session.prepare r.surroundings.supports p cwd
  let r := effects.foldl carryOut { r with session }
  (r.handle event).1

/-- Reports of a process handled. -/
def hear (r : Running) (task : TaskId) (now : Instant) (hs : List Happening) : Running :=
  hs.foldl (fun r h => (r.handle (.process ⟨task, now, h⟩)).1) { r with now }

/-- The next thing that happens: a report of the process, or an interrupt. -/
def next (r : Running) : Option Running :=
  match r.reports with
  | e :: rest => some ({ r with reports := rest }.hear e.task e.time [e.what])
  | [] =>
    let report := r.live.bind fun p => p.next.map fun n => (p.handle.task, n)
    let interrupt (t : Instant) (rest : List Instant) : Running :=
      ({ r with now := t, interrupts := rest }.handle .stopRequested).1
    match report, r.interrupts with
    | none, [] => none
    | none, t :: rest => some (interrupt t rest)
    | some (task, t, hs, p), [] => some ({ r with live := some p }.hear task t hs)
    | some (task, t, hs, p), u :: rest =>
      if u < t then some (interrupt u rest) else some ({ r with live := some p }.hear task t hs)

/-- What happens until the run is over. -/
def toTheEnd : (fuel : Nat) → Running → Running
  | 0, r => r
  | fuel + 1, r =>
    if r.ending.isSome then r
    else match r.next with
      | none => r
      | some r => toTheEnd fuel r

/-- A bound on the number of things that can happen: each report of the process may be answered with
an interrupt. -/
def effort (r : Running) : Nat :=
  let still := match r.live with
    | some p => p.agenda.foldl (fun n a => n + 1 + match a.2 with
        | .piece _ bytes => bytes.length
        | _ => 0) 0
    | none => 0
  2 * still + r.reports.length + 16

end Running

/-- A request carried out. -/
def perform (w : Surroundings) (directory : WorkingDirectory) (c : Config) (enabled : Bool)
    (request : Request) (interruptOn : Option String) : Running :=
  let r : Running := { surroundings := w, session := .new c enabled, interruptOn }
  let (r, preparations) := r.handle (.runRequested request)
  let r := preparations.foldl (·.prepare directory) r
  let r := r.toTheEnd r.effort
  (r.handle .shutdownRequested).1

/-- Lines as a reader of the output sees them. -/
def asRead (lines : List String) : List String :=
  Text.lines (String.join (lines.map (· ++ "\n")))

/-- A command line carried out. -/
def run (w : Surroundings) (line : CommandLine) (interruptOn : Option String) : Report :=
  match Verb.ofText line.verb with
  | .error e => { result := .error (.verb e) }
  | .ok verb =>
    let start := Place.path w.directory
    let directory : WorkingDirectory := match line.cwd with
      | some dir => .fixed ⟨dir⟩
      | none => .manifest start
    let found := directory.find w.tree w.directory
    let (configDirectory, log) : Path × List LogLevel := match found with
      | .ok dir => (dir, [])
      | .error _ => (start, [.debug])
    let log := log ++ if line.config.isSome then [] else [.debug]
    match Config.load w.tree w.directory (line.config.map Path.mk) configDirectory with
    | .error e => { result := .error e, log }
    | .ok c =>
      let c := match line.executable with
        | some executable => c.withExecutable executable
        | none => c
      let request : Request := ⟨verb, line.args, false⟩
      if line.dryRun then
        match found with
        | .error e => { result := .error (.directory e), log }
        | .ok dir =>
          let i := (Planner.new c.executable c.args).planUnprobed request dir
          { result := .ok 0, stdout := asRead (dryRunLines c i), log := log ++ [.debug] }
      else
        let r := perform w directory c (c.enabled && !line.noDiagnostics) request interruptOn
        { result := .ok ((r.ending.map (·.exitCode)).getD 1)
          stdout := asRead r.stdout
          stderr := asRead r.stderr
          log := log ++ [.debug, .info] ++ r.log }

end Application

/-- What the program prints and its exit code: a failure is printed, and its exit code is 1. -/
def Report.shown (r : Report) : Int × List String × List String :=
  match r.result with
  | .ok code => (code, r.stdout, r.stderr)
  | .error e => (1, r.stdout, r.stderr ++ Application.asRead (Application.failureLines e))

end BuildRunner
