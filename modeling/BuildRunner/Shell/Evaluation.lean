import BuildRunner.Shell.Builtin

/-!
Statements run. One function runs a task with what runs the tasks inside it handed in; tying the
two together takes fuel, one for each task inside another.
-/

namespace BuildRunner.Shell.Evaluation

open Act

variable (run : Task → Act Unit)

/-! ### Words and descriptors -/

/-- What a script writes, without the newlines at its end. -/
def output (script : String) : Act String := do
  let i ← newStore
  let ending ← inChild do
    lead 1 (.store i)
    run (.text script.toList)
  change fun l => { l with status := ending.number, hasOutput := true }
  let text := String.join ((← collected i).map (·.2))
  return String.ofList ((text.toList.reverse.dropWhile (· = '\n')).reverse)

/-- What reading from a file leads to. -/
def opened (path : String) : Act (Except String Channel) := do
  if path = "/dev/null" then return .ok .void
  match ← entry? path with
  | .ok (.file _ f) =>
    let t := (← mine).clock
    return .ok (.source (← newSource [(t, ofBytes f.bytes)] t))
  | .ok (.directory _) => return .ok .void
  | .error _ => return .error ("cannot open " ++ path ++ ": No such file")

/-- What writing to a file leads to; the file is made, or emptied if nothing is to be kept. -/
def created (path : String) (isKept : Bool) : Act (Except String Channel) := do
  if path = "/dev/null" then return .ok .void
  if path = "/dev/stdout" then return .ok ((← channel? 1).getD .void)
  if path = "/dev/stderr" then return .ok ((← channel? 2).getD .void)
  let place ← placeOf path
  match ← entry? path with
  | .ok (.directory _) => return .error ("cannot create " ++ path ++ ": Is a directory")
  | .ok (.file p f) =>
    if !isKept then share fun s => { s with tree := s.tree.addFile p { f with bytes := [] } }
    return .ok (.file p)
  | .error _ =>
    match (← shared).tree.entry? place.dropLast with
    | some (.directory _) =>
      share fun s => { s with tree := s.tree.addFile place ⟨[], false⟩ }
      return .ok (.file place)
    | _ => return .error ("cannot create " ++ path ++ ": Directory nonexistent")

/-- A redirection made, or what keeps it from being made. -/
def redirect (r : Redirection) : Act (Except String Unit) := do
  let target ← Expansion.text (output run) r.target
  let settle (c : Except String Channel) : Act (Except String Unit) := do
    match c with
    | .ok c => lead r.descriptor c; return .ok ()
    | .error e => return .error e
  match r.direction with
  | .read => settle (← opened target)
  | .write => settle (← created target false)
  | .append => settle (← created target true)
  | .document =>
    let t := (← mine).clock
    settle (.ok (.source (← newSource [(t, target)] t)))
  | .duplicate =>
    if target = "-" then
      change fun l => { l with channels := l.channels.filter fun e => e.1 ≠ r.descriptor }
      return .ok ()
    else match natural? target.toList with
      | none => return .error (target ++ ": bad file descriptor")
      | some n =>
        match ← channel? n with
        | some c => settle (.ok c)
        | none => return .error (target ++ ": Bad file descriptor")

/-- Redirections made one after the other. -/
def redirectAll : List Redirection → Act (Except String Unit)
  | [] => return .ok ()
  | r :: rs => do
    match ← redirect run r with
    | .ok () => redirectAll rs
    | .error e => return .error e

/-- Something done with redirections that hold only for it. -/
def redirected (rs : List Redirection) (act : Act Unit) : Act Unit := do
  let before := (← mine).channels
  match ← redirectAll run rs with
  | .error e =>
    change fun l => { l with channels := before }
    complain e
    setStatus 2
  | .ok () =>
    let r ← attempt act
    change fun l => { l with channels := before }
    match r with
    | .ok () => return
    | .error f => throw f

/-! ### Programs -/

/-- Something done up to its end, and then what is to be done at the end of a script. -/
def toTheEnd (act : Act Unit) : Act Unit := do
  let r ← attempt act
  let status ← match r with
    | .ok () => do pure (← mine).status
    | .error (.exited n) => pure n
    | .error (.returned n) => pure n
    | .error f => throw f
  match (← mine).traps.find? fun t => Builtin.signal? t.1 = some 0 with
  | none => throw (.exited status)
  | some (_, action) =>
    change fun l => { l with traps := [], status }
    match ← attempt (run (.text action.toList)) with
    | .error (.exited n) => throw (.exited n)
    | .error (.killed n) => throw (.killed n)
    | _ => throw (.exited status)

/-- A script in the place of the process that is there, which knows only the exported variables. -/
def script (name : String) (args : List String) (options : List Char) (text : List Char) :
    Act Unit := do
  change fun l => { l with
    name, positional := args, functions := [], options, traps := [], locals := [], line := 1
    isTested := false, scriptPid := l.pid, status := 0
    bindings := l.bindings.filter fun v => v.2.isExported }
  toTheEnd run (run (.text text))

/-- A failure to find or start a program. -/
def unstarted (name text : String) (status : Nat) : Act Unit := do
  complain (name ++ ": " ++ text)
  throw (.exited status)

/-- The letters of the options at the front of the arguments of a shell, and what follows them. -/
def shellOptions : List String → List Char × List String
  | "-o" :: _ :: rest => shellOptions rest
  | "--" :: rest => ([], rest)
  | "-" :: rest => ([], rest)
  | a :: rest =>
    match a.toList with
    | '-' :: letters =>
      let (more, rest) := shellOptions rest
      (letters ++ more, rest)
    | _ => ([], a :: rest)
  | [] => ([], [])

/-- A shell: it runs a text among its arguments, or a file, or what comes in. -/
def shell (name : String) (args : List String) : Act Unit := do
  let (letters, args) := shellOptions args
  let refuse (text : String) : Act Unit := do
    write 2 (name ++ ": 0: " ++ text ++ "\n")
    throw (.exited 2)
  let options := letters.filter fun c => c ≠ 'c' && c ≠ 's'
  match letters.find? fun c => !"abcefilmnsuvxCEIV".toList.contains c with
  | some c => refuse ("Illegal option -" ++ c.toString)
  | none =>
    match letters.contains 'c', args with
    | true, text :: rest => script run (rest.headD name) (rest.drop 1) options text.toList
    | true, [] => refuse "-c requires an argument"
    | false, args =>
      match letters.contains 's', args with
      | false, file :: rest =>
        match ← entry? file with
        | .ok (.file _ f) => script run file rest options (ofBytes f.bytes).toList
        | _ => refuse ("cannot open " ++ file ++ ": No such file")
      | _, rest =>
        let text ← Utility.input
        script run name rest options text.toList

/-- The directories that hold the programs of the system. -/
def systemDirectories : List String := ["/bin", "/usr/bin", "/usr/local/bin", "/sbin", "/usr/sbin"]

/-- The names of the shell. -/
def isShell (name : String) : Bool := ["sh", "dash", "bash", "ash"].contains name

/-- The programs that start others. -/
def isStarter (name : String) : Bool := ["env", "nohup", "setsid", "nice"].contains name

/-- Whether the system has a program of a name. -/
def isOnSystem (name : String) : Bool :=
  isShell name || isStarter name || (Utility.find? name).isSome

/-- Options and assignments at the front of arguments carried out for the program behind them, which
is returned with its arguments. -/
def environmentOf : List String → Act (List String)
  | [] => return []
  | "-u" :: name :: rest => do
    unset name
    environmentOf rest
  | a :: rest => do
    if a = "-i" || a = "-" then
      change fun l => { l with bindings := [] }
      environmentOf rest
    else if a.startsWith "-" then environmentOf rest
    else
      let name := String.ofList (a.toList.takeWhile (· ≠ '='))
      if a.toList.contains '=' then
        assign name (String.ofList (a.toList.drop (name.length + 1)))
        Builtin.declare (fun v => { v with isExported := true }) [name]
        environmentOf rest
      else return a :: rest

/-- Arguments of which the first, behind `-S`, is several words in one. -/
def wordsOfFirst : List String → List String
  | "-S" :: text :: rest => wordsOf text.toList ++ rest
  | text :: rest =>
    match text.toList with
    | '-' :: 'S' :: cs => wordsOf cs ++ rest
    | _ => text :: rest
  | [] => []
where
  wordsOf (cs : List Char) : List String :=
    ((Text.splitAt ' ' cs).filter (· ≠ [])).map String.ofList

/-- A program of the system. -/
def systemProgram (path name : String) (args : List String) : Act Unit := do
  if isShell name then shell run path args
  else if isStarter name then
    let argv ← if name = "env" then environmentOf (wordsOfFirst args) else pure args
    if argv.isEmpty then Utility.environment [] else run (.program argv)
  else match Utility.find? name with
    | some f => setStatus 0; f args; throw (.exited (← mine).status)
    | none => unstarted path "not found" 127

/-- The interpreter and the argument that the first line of a file names. A carriage return is part
of a name. -/
def interpreter? (bytes : List UInt8) : Option (List String) :=
  match bytes with
  | 35 :: 33 :: rest =>
    let line := (ofBytes (rest.takeWhile (· ≠ 10))).toList
    let isBlank (c : Char) : Bool := c = ' ' || c = '\t'
    let line := ((line.dropWhile isBlank).reverse.dropWhile isBlank).reverse
    let first := line.takeWhile fun c => !isBlank c
    let more := (line.drop first.length).dropWhile isBlank
    if first.isEmpty then none
    else some (String.ofList first :: if more.isEmpty then [] else [String.ofList more])
  | _ => none

/-- The name of a program of the system that a path leads to. -/
def systemName? (path : String) : Option String :=
  let p : Path := ⟨path⟩
  match p.components.reverse with
  | .name n :: rest =>
    if systemDirectories.contains (Path.ofComponents rest.reverse).text && isOnSystem n then some n
    else none
  | _ => none

/-- A program of the user. -/
def userProgram (path : String) (f : File) (args : List String) : Act Unit := do
  if !f.executable then unstarted path "Permission denied" 126
  else match interpreter? f.bytes with
    | none => script run path args [] (ofBytes f.bytes).toList
    | some argv => run (.program (argv ++ path :: args))

/-- A program in the place of the process that is there. -/
def program (argv : List String) : Act Unit := do
  match argv with
  | [] => return
  | name :: args =>
    tick 1000
    if name.toList.contains '/' then
      match systemName? name with
      | some n => systemProgram run name n args
      | none =>
        match ← entry? name with
        | .ok (.file _ f) => userProgram run name f args
        | .ok (.directory _) => unstarted name "Permission denied" 126
        | .error _ => unstarted name "not found" 127
    else
      let directories := (Text.splitAt ':' ((← valueOf? "PATH").getD "/usr/bin:/bin").toList).map
        String.ofList
      let mut found : Option (Act Unit) := none
      for d in directories do
        if found.isNone then
          if systemDirectories.contains d && isOnSystem name then
            found := some (systemProgram run name name args)
          else
            let path := (if d = "" then "." else d) ++ "/" ++ name
            match ← entry? path with
            | .ok (.file _ f) =>
              if f.executable then found := some (userProgram run path f args)
            | _ => pure ()
      match found with
      | some act => act
      | none => unstarted name "not found" 127

/-! ### Commands -/

/-- The end of a command that failed, if the script is to end then. -/
def checkStatus : Act Unit := do
  let l ← mine
  if l.status ≠ 0 && !l.isTested && l.options.contains 'e' then throw (.exited l.status)

/-- Something done whose failure is looked at. -/
def tested (act : Act Unit) : Act Unit := do
  let before := (← mine).isTested
  change fun l => { l with isTested := true }
  let r ← attempt act
  change fun l => { l with isTested := before }
  match r with
  | .ok () => return
  | .error f => throw f

/-- A function called. -/
def call (body : Statement) (args : List String) : Act Unit := do
  let before ← mine
  change fun l => { l with positional := args, locals := [] }
  let r ← attempt (run (.statement body))
  let kept := (← mine).locals
  for (name, v) in kept do
    change fun l => { l with bindings :=
      let others := l.bindings.filter fun e => e.1 ≠ name
      match v with
      | some v => (name, v) :: others
      | none => others }
  change fun l => { l with positional := before.positional, locals := before.locals }
  match r with
  | .ok () => return
  | .error (.returned n) => setStatus n
  | .error f => throw f

/-- Something done with variables that hold only for it. -/
def withVariables (values : List (String × String)) (act : Act Unit) : Act Unit := do
  let before := (← mine).bindings
  for (n, v) in values do assign n v
  let r ← attempt act
  if !values.isEmpty then change fun l => { l with bindings := before }
  match r with
  | .ok () => return
  | .error f => throw f

/-- A command by its words, in the process that is there. -/
def named (values : List (String × String)) (rs : List Redirection) (argv : List String) :
    Act Unit := do
  match argv with
  | [] => return
  | "command" :: rest =>
    match rest with
    | "-v" :: name :: _ => redirected run rs (do setStatus 0; Builtin.describe true name)
    | "-V" :: name :: _ => redirected run rs (do setStatus 0; Builtin.describe false name)
    | name :: args =>
      match Builtin.find? run name with
      | some f => redirected run rs (do setStatus 0; f args)
      | none =>
        let ending ← inChild (redirected run rs (run (.program rest)))
        setStatus ending.number
    | [] => return
  | "exec" :: rest =>
    for (n, v) in values do assign n v
    match ← redirectAll run rs with
    | .error e => complain e; throw (.exited 2)
    | .ok () =>
      if rest.isEmpty then setStatus 0
      else
        run (.program rest)
        throw (.exited (← mine).status)
  | name :: args =>
    let function := (← mine).functions.lookup name
    match if Builtin.isSpecial name then none else function with
    | some body => withVariables values (redirected run rs (call run body args))
    | none =>
      match Builtin.find? run name with
      | some f =>
        tick 10
        let act := redirected run rs do
          if name ≠ "exit" && name ≠ "return" then setStatus 0
          f args
        if Builtin.isSpecial name then
          for (n, v) in values do assign n v
          act
        else withVariables values act
      | none =>
        let ending ← inChild <| redirected run rs do
          for (n, v) in values do
            assign n v
            Builtin.declare (fun v => { v with isExported := true }) [n]
          run (.program (name :: args))
        setStatus ending.number

/-- A simple command. -/
def simple (line : Nat) (assignments : List (String × Word)) (words : List Word)
    (rs : List Redirection) : Act Unit := do
  change fun l => { l with line, hasOutput := false }
  let argv ← Expansion.all (output run) words
  let mut values := []
  for (name, w) in assignments do
    let v ← Expansion.text (output run) w
    if argv.isEmpty then assign name v
    values := values ++ [(name, v)]
  if ← hasOption 'x' then
    write 2 ("+ " ++ " ".intercalate (values.map (fun v => v.1 ++ "=" ++ v.2) ++ argv) ++ "\n")
  if argv.isEmpty then
    tick 10
    if !(← mine).hasOutput then setStatus 0
    redirected run rs (return)
  else named run values rs argv
  checkStatus

/-- Commands with pipes between them. Each of them starts at the same moment. -/
def pipeline : (input : Option Nat) → List Statement → Act Unit
  | _, [] => return
  | input, [c] => do
    let ending ← inChild do
      match input with
      | some i => lead 0 (.source i)
      | none => return
      run (.statement c)
    setStatus ending.number
  | input, c :: d :: rest => do
    let i ← newStore
    let (_, l) ← child 0 do
      match input with
      | some i => lead 0 (.source i)
      | none => pure ()
      lead 1 (.store i)
      run (.statement c)
    let source ← newSource (← collected i) l.clock
    pipeline (some source) (d :: rest)

/-- A round of a loop: whether there may be a next one. -/
def aRound (body : Statement) : Act Bool := do
  change fun l => { l with loops := l.loops + 1 }
  let r ← attempt (run (.statement body))
  change fun l => { l with loops := l.loops - 1 }
  match r with
  | .ok () => return true
  | .error (.leaveLoops n) =>
    if n ≤ 1 || (← mine).loops = 0 then return false else throw (.leaveLoops (n - 1))
  | .error (.nextRound n) =>
    if n ≤ 1 || (← mine).loops = 0 then return true else throw (.nextRound (n - 1))
  | .error f => throw f

/-- Rounds of a loop as long as its condition is as wanted. -/
def rounds (wanted : Bool) (condition body : Statement) : (most last : Nat) → Act Unit
  | 0, _ => throw .endless
  | most + 1, last => do
    tested (run (.statement condition))
    if ((← mine).status == 0) != wanted then setStatus last
    else if ← aRound run body then
      rounds wanted condition body most (← mine).status
    else return

/-- A round of a loop for each item. -/
def each (name : String) (body : Statement) : List String → Act Unit
  | [] => return
  | item :: items => do
    assign name item
    tick 5
    if ← aRound run body then each name body items else return

/-- The first arm of a choice that a text fits. -/
def arm (subject : List Char) : List (List Word × Statement) → Act Unit
  | [] => setStatus 0
  | (ps, body) :: arms => do
    let mut isFit := false
    for p in ps do
      let gs ← Expansion.glyphs (output run) p
      if Pattern.accepts (Pattern.ofField (gs.length + 1) gs) subject then isFit := true
    if isFit then
      setStatus 0
      run (.statement body)
    else arm subject arms

/-- Statements one after the other. -/
def sequence : List Statement → Act Unit
  | [] => return
  | s :: ss => do
    run (.statement s)
    sequence ss

/-- A statement run. -/
def statement (s : Statement) : Act Unit := do
  match s with
  | .simple line assignments words rs => simple run line assignments words rs
  | .pipeline stages =>
    pipeline run none stages
    checkStatus
  | .negation c =>
    tested (run (.statement c))
    setStatus (if (← mine).status = 0 then 1 else 0)
  | .both a b =>
    tested (run (.statement a))
    if (← mine).status = 0 then run (.statement b)
  | .either a b =>
    tested (run (.statement a))
    if (← mine).status ≠ 0 then run (.statement b)
  | .sequence ss => sequence run ss
  | .background c =>
    let _ ← inBackground do
      lead 0 .void
      run (.statement c)
  | .redirected c rs => redirected run rs (run (.statement c))
  | .inside c =>
    let ending ← inChild (toTheEnd run (run (.statement c)))
    setStatus ending.number
    checkStatus
  | .branch condition yes no =>
    tested (run (.statement condition))
    if (← mine).status = 0 then run (.statement yes)
    else
      setStatus 0
      run (.statement no)
  | .loop wanted condition body => rounds run wanted condition body 100000 0
  | .each name items body =>
    let items ← match items with
      | none => do pure (← mine).positional
      | some ws => Expansion.all (output run) ws
    setStatus 0
    each run name body items
  | .choice subject arms => arm run (← Expansion.text (output run) subject).toList arms
  | .define name body =>
    change fun l => { l with functions := (name, body) :: l.functions, status := 0 }

/-- A task run. -/
def task (t : Task) : Act Unit := do
  match t with
  | .statement s => statement run s
  | .program argv => program run argv
  | .text text =>
    let script := Script.parse text
    sequence run script.statements
    match script.mistake with
    | none => return
    | some m =>
      change fun l => { l with line := m.line }
      Expansion.fail m.message

/-- Tasks with tasks inside them, up to a depth. -/
def within : (depth : Nat) → Task → Act Unit
  | 0, _ => throw .endless
  | depth + 1, t => task (within depth) t

end BuildRunner.Shell.Evaluation
