import BuildRunner.Shell.Script
import BuildRunner.Shell.Utility

/-!
The commands that belong to the shell itself. Some of them run others: those get what runs a task
handed in.
-/

namespace BuildRunner.Shell

/-- Something to be run. -/
inductive Task where
  | statement (s : Statement)
  /-- The text of a script, in the process that is there. -/
  | text (script : List Char)
  /-- A program, in the place of the process that is there. -/
  | program (argv : List String)

namespace Builtin

open Act

/-! ### Signals -/

/-- The number of a signal, by its name or as it is. -/
def signal? (s : String) : Option Nat :=
  let name := if s.startsWith "SIG" then String.ofList (s.toList.drop 3) else s
  match name with
  | "EXIT" => some 0
  | "HUP" => some 1
  | "INT" => some 2
  | "QUIT" => some 3
  | "ABRT" => some 6
  | "KILL" => some 9
  | "USR1" => some 10
  | "SEGV" => some 11
  | "USR2" => some 12
  | "PIPE" => some 13
  | "ALRM" => some 14
  | "TERM" => some 15
  | "CHLD" => some 17
  | "CONT" => some 18
  | "WINCH" => some 28
  | name => natural? name.toList

/-- Whether a process that does nothing about a signal goes on. -/
def isHarmless (signal : Nat) : Bool := [0, 17, 18, 23, 28].contains signal

/-- A job ended by a signal: what it would have written later is gone. -/
def endJob (pid signal : Nat) : Act Unit := do
  let t := (← mine).clock
  share fun s => { s with
    writes := s.writes.filter fun w => w.pid ≠ pid || w.time ≤ t
    jobs := s.jobs.map fun j =>
      if j.pid = pid && j.ends.all (t < ·) then { j with ends := some t, ending := .signal signal }
      else j }

/-- A signal that reaches the process itself. -/
def receive (run : Task → Act Unit) (signal : Nat) : Act Unit := do
  let trapped := (← mine).traps.find? fun t => signal? t.1 = some signal
  match trapped with
  | some (_, action) => if signal = 9 then throw (.killed 9) else run (.text action.toList)
  | none => if isHarmless signal then return else throw (.killed signal)

/-- A signal sent to one process. -/
def send (run : Task → Act Unit) (signal : Nat) (target : String) : Act Unit := do
  let l ← mine
  match natural? target.toList with
  | none =>
    match target with
    | "%1" =>
      match l.lastJob with
      | some pid => endJob pid signal
      | none => complain "kill: No such job: %1"; setStatus 2
    | _ => if signal = 0 then return else throw (.killed signal)
  | some pid =>
    if pid = l.pid || pid = 0 then receive run signal
    else if ((← shared).jobs.any (·.pid = pid)) then
      if !isHarmless signal then endJob pid signal
    else if pid = l.scriptPid then
      if !isHarmless signal then
        share fun s => { s with doomed := (pid, signal) :: s.doomed }
    else
      complain "kill: No such process"
      setStatus 1

/-- Signals sent to processes. -/
def kill (run : Task → Act Unit) (args : List String) : Act Unit := do
  let (signal, targets) : Option Nat × List String := match args with
    | "-s" :: name :: rest => (signal? name, rest)
    | "--" :: rest => (some 15, rest)
    | a :: rest => if a.startsWith "-" then (signal? (String.ofList (a.toList.drop 1)), rest)
        else (some 15, args)
    | [] => (some 15, [])
  match signal with
  | none => complain ("kill: invalid signal number or name: " ++ args.headD ""); setStatus 2
  | some signal =>
    for t in if targets.head? = some "--" then targets.drop 1 else targets do
      send run signal t

/-- Jobs waited for. -/
def wait (args : List String) : Act Unit := do
  let l ← mine
  let jobs := (← shared).jobs.filter fun j => j.parent = l.pid
  let wanted := if args.isEmpty then jobs
    else jobs.filter fun j => args.contains (toString j.pid) || args.contains "%1"
  if !args.isEmpty && wanted.isEmpty then setStatus 127
  for j in wanted do
    match j.ends with
    | none => spend (horizon + 1)
    | some t => moveTo t
    lament j.ending
  match args.getLast? with
  | some _ => for j in wanted.take 1 do setStatus j.ending.number
  | none => return

/-! ### Variables -/

/-- Assignments among the arguments made, and what is done to each name. -/
def declare (f : Variable → Variable) (args : List String) : Act Unit := do
  for a in args do
    let name := String.ofList (a.toList.takeWhile (· ≠ '='))
    let value := a.toList.drop (name.length + 1)
    if a.toList.contains '=' then assign name (String.ofList value)
    change fun l => { l with bindings := match l.bindings.lookup name with
      | some v => (name, f v) :: l.bindings.filter fun e => e.1 ≠ name
      | none => l.bindings }

/-- Variables kept for the function that runs. -/
def keepLocal (args : List String) : Act Unit := do
  for a in args do
    let name := String.ofList (a.toList.takeWhile (· ≠ '='))
    change fun l => { l with locals := (name, l.bindings.lookup name) :: l.locals }
    if a.toList.contains '=' then
      assign name (String.ofList (a.toList.drop (name.length + 1)))

/-- The fields of a line for a number of names: the last one takes all that is left. -/
def share : (names : Nat) → (separators : List Char) → List Char → List String
  | 0, _, _ => []
  | 1, seps, cs =>
    let isBlank (c : Char) : Bool := seps.contains c && (c = ' ' || c = '\t' || c = '\n')
    [String.ofList (((cs.dropWhile isBlank).reverse.dropWhile isBlank).reverse)]
  | n + 1, seps, cs =>
    let isBlank (c : Char) : Bool := seps.contains c && (c = ' ' || c = '\t' || c = '\n')
    let cs := cs.dropWhile isBlank
    let field := cs.takeWhile fun c => !seps.contains c
    let rest := (cs.drop field.length).dropWhile isBlank
    let rest := match rest with
      | c :: more => if seps.contains c then more else rest
      | [] => []
    String.ofList field :: share n seps rest

/-- A line read into variables. -/
def read (args : List String) : Act Unit := do
  let isRaw := args.contains "-r"
  let names := args.filter fun a => !a.startsWith "-"
  let (line, isWhole) ← readLine ((← piecesLeft) + 1)
  let line := if isRaw then line else String.ofList (plain line.toList)
  let values := share names.length (← Expansion.separators) line.toList
  for (n, v) in names.zip values do
    assign n v
  setStatus (if isWhole then 0 else 1)
where
  /-- A line without the backslashes in front of its characters. -/
  plain : List Char → List Char
    | [] => []
    | '\\' :: c :: cs => c :: plain cs
    | c :: cs => c :: plain cs

/-- Options and positional parameters set. -/
def set : List String → Act Unit
  | [] => do
    let vs := (← mine).bindings
    say (Utility.unlines ((vs.map fun v => v.1 ++ "='" ++ v.2.value ++ "'").mergeSort
      fun a b => a ≤ b))
  | "--" :: rest => change fun l => { l with positional := rest }
  | "-o" :: _ :: rest => if rest.isEmpty then return else set rest
  | "+o" :: _ :: rest => if rest.isEmpty then return else set rest
  | a :: rest => do
    match a.toList with
    | '-' :: cs =>
      change fun l => { l with options := l.options ++ cs.filter fun c => !l.options.contains c }
      if rest.isEmpty then return else set rest
    | '+' :: cs =>
      change fun l => { l with options := l.options.filter fun c => !cs.contains c }
      if rest.isEmpty then return else set rest
    | _ => change fun l => { l with positional := a :: rest }

/-! ### Words with escapes -/

/-- Text put out word by word, escapes replaced. -/
def echo (args : List String) : Act Unit := do
  let isOpen := args.head? = some "-n"
  let cs := (" ".intercalate (if isOpen then args.drop 1 else args)).toList
  let (text, isOver) := Format.unescape (cs.length + 1) cs
  say (String.ofList text ++ if isOpen || isOver then "" else "\n")

/-! ### The rest -/

/-- Another directory. -/
def changeDirectory (args : List String) : Act Unit := do
  let target ← match args.filter fun a => a ≠ "--" && a ≠ "-P" && a ≠ "-L" with
    | [] => do pure ((← valueOf? "HOME").getD "/")
    | "-" :: _ => do pure ((← valueOf? "OLDPWD").getD "/")
    | p :: _ => pure p
  match ← entry? target with
  | .ok (.directory place) =>
    let old := ofText (Place.path (← mine).directory).text
    change fun l => { l with directory := place }
    assign "OLDPWD" old
    assign "PWD" (ofText place.path.text)
    if args.head? = some "-" then say (ofText place.path.text ++ "\n")
  | _ => complain ("cd: can't cd to " ++ target); setStatus 2

/-- What runs on signals and at the end. -/
def trap (args : List String) : Act Unit := do
  match if args.head? = some "--" then args.drop 1 else args with
  | [] =>
    for t in (← mine).traps.reverse do
      say ("trap -- '" ++ t.2 ++ "' " ++ t.1 ++ "\n")
  | action :: signals =>
    let isReset := action = "-" || (signals.isEmpty && (signal? action).isSome)
    let signals := if signals.isEmpty then [action] else signals
    for s in signals do
      let name := if s = "0" then "EXIT" else s
      change fun l => { l with traps :=
        let others := l.traps.filter fun t => signal? t.1 ≠ signal? name
        if isReset then others else (name, action) :: others }

/-- The number that the first argument is, or another one if there are no arguments. -/
def numberOr (name : String) (other : Nat) (args : List String) : Act Nat := do
  match args with
  | [] => return other
  | a :: _ =>
    match natural? a.toList with
    | some n => return n
    | none => Expansion.fail (name ++ ": Illegal number: " ++ a)

/-- A way out of loops, if there are any. -/
def leave (name : String) (flow : Nat → Flow) (args : List String) : Act Unit := do
  let n ← numberOr name 1 args
  if (← mine).loops ≠ 0 then throw (flow (max 1 n))

/-- The commands that keep the assignments in front of them. -/
def isSpecial (name : String) : Bool :=
  [":", ".", "break", "continue", "eval", "exec", "exit", "export", "readonly", "return", "set",
    "shift", "trap", "unset", "times"].contains name

/-- Whether a name is that of a command of the shell. -/
def isBuiltin (name : String) : Bool :=
  isSpecial name || ["[", "cd", "chdir", "command", "echo", "false", "kill", "local", "printf",
    "pwd", "read", "test", "true", "type", "umask", "wait", "hash", "ulimit", "jobs"].contains name

/-- What a name stands for, said in one line. -/
def describe (isBrief : Bool) (name : String) : Act Unit := do
  let l ← mine
  if (l.functions.lookup name).isSome then
    say (if isBrief then name ++ "\n" else name ++ " is a shell function\n")
  else if isBuiltin name then
    say (if isBrief then name ++ "\n" else name ++ " is a shell builtin\n")
  else if (Utility.find? name).isSome then
    say (if isBrief then "/usr/bin/" ++ name ++ "\n" else name ++ " is /usr/bin/" ++ name ++ "\n")
  else
    if !isBrief then say (name ++ ": not found\n")
    setStatus 127

/-- The script in a file run in the process that is there. -/
def source (run : Task → Act Unit) (args : List String) : Act Unit := do
  match args with
  | [] => return
  | path :: _ =>
    match ← entry? path with
    | .ok (.file _ f) =>
      match ← attempt (run (.text (ofBytes f.bytes).toList)) with
      | .ok () => return
      | .error (.returned n) => setStatus n
      | .error e => throw e
    | _ =>
      complain (".: cannot open " ++ path ++ ": No such file")
      throw (.exited 2)

/-- The command of the shell with a name. -/
def find? (run : Task → Act Unit) (name : String) : Option (List String → Act Unit) :=
  match name with
  | ":" => some fun _ => return
  | "." => some (source run)
  | "true" => some fun _ => return
  | "false" => some fun _ => setStatus 1
  | "echo" => some echo
  | "printf" => some Utility.printf
  | "test" => some (Utility.test "test")
  | "[" => some (Utility.test "[")
  | "pwd" => some fun _ => Utility.directory
  | "cd" => some changeDirectory
  | "chdir" => some changeDirectory
  | "break" => some (leave "break" .leaveLoops)
  | "continue" => some (leave "continue" .nextRound)
  | "return" => some fun args => do
    throw (.returned (← numberOr "return" (← mine).status args))
  | "exit" => some fun args => do throw (.exited ((← numberOr "exit" (← mine).status args) % 256))
  | "eval" => some fun args => run (.text (" ".intercalate args).toList)
  | "export" => some (fun args => do
      for a in args do
        let name := String.ofList (a.toList.takeWhile (· ≠ '='))
        if !a.toList.contains '=' && ((← mine).bindings.lookup name).isNone then return
      declare (fun v => { v with isExported := true }) (args.filter (· ≠ "-p")))
  | "readonly" => some (declare fun v => { v with isReadOnly := true })
  | "local" => some keepLocal
  | "unset" => some fun args => do
    for a in args do
      if args.contains "-f" then
        change fun l => { l with functions := l.functions.filter fun f => f.1 ≠ a }
      else unset a
  | "shift" => some fun args => do
    let n ← numberOr "shift" 1 args
    if n ≤ (← mine).positional.length then
      change fun l => { l with positional := l.positional.drop n }
    else Expansion.fail "shift: can't shift that many"
  | "set" => some set
  | "read" => some read
  | "trap" => some trap
  | "kill" => some (kill run)
  | "wait" => some wait
  | "umask" => some fun args => if args.isEmpty then say "0022\n" else return
  | "type" => some fun args => do for a in args do describe false a
  | "hash" => some fun _ => return
  | "ulimit" => some fun _ => say "unlimited\n"
  | "jobs" => some fun _ => return
  | "times" => some fun _ => say "0m0.00s 0m0.00s\n0m0.00s 0m0.00s\n"
  | _ => none

end Builtin

end BuildRunner.Shell
