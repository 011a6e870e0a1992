import BuildRunner.Path

/-!
The command line of the program: options, a verb, and arguments for the tool. Options are
recognised until the arguments for the tool begin, which they do at the second word that is not an
option, at the first unknown option behind the verb, or behind `--`. The value of an option is
checked when the next option or word is reached, and an option may be given only once.
-/

namespace BuildRunner

/-- How much is logged. -/
inductive LogLevel where
  | error
  | warn
  | info
  | debug
  | trace
  deriving DecidableEq, Repr

/-- What a command line asks for. -/
structure CommandLine where
  config : Option String := none
  cwd : Option String := none
  executable : Option String := none
  logLevel : Option LogLevel := none
  noDiagnostics : Bool := false
  dryRun : Bool := false
  verb : String
  args : List String := []
  deriving DecidableEq, Repr

namespace CommandLine

/-- Why a command line is not run: it is wrong, or it asks for a text. -/
inductive Refusal where
  | missingRequiredArgument
  | unknownArgument
  | invalidValue
  | tooManyValues
  | argumentConflict
  | displayHelp
  | displayVersion
  deriving DecidableEq, Repr

/-- Whether a refusal is the answer to a question, and not an error. -/
def Refusal.isAnswer : Refusal → Bool
  | displayHelp => true
  | displayVersion => true
  | _ => false

/-- What the program says of its version. -/
def version : String := "buildpipe 0.1.0"

/-- The options that take a value. -/
inductive ValueOption where
  | config
  | cwd
  | executable
  | logLevel
  deriving DecidableEq, Repr

/-- The options that take none. -/
inductive Flag where
  | noDiagnostics
  | dryRun
  | help
  | version
  deriving DecidableEq, Repr

/-- An option of either kind. -/
inductive Opt where
  | value (o : ValueOption)
  | flag (f : Flag)
  deriving DecidableEq, Repr

/-- The option of a long name. -/
def longOption? : String → Option Opt
  | "config" => some (.value .config)
  | "cwd" => some (.value .cwd)
  | "executable" => some (.value .executable)
  | "log-level" => some (.value .logLevel)
  | "no-diagnostics" => some (.flag .noDiagnostics)
  | "dry-run" => some (.flag .dryRun)
  | "help" => some (.flag .help)
  | "version" => some (.flag .version)
  | _ => none

/-- The option of a letter. -/
def shortOption? (c : Char) : Option Flag :=
  if c = 'h' then some .help else if c = 'V' then some .version else none

/-- The level of a name. -/
def level? : String → Option LogLevel
  | "error" => some .error
  | "warn" => some .warn
  | "info" => some .info
  | "debug" => some .debug
  | "trace" => some .trace
  | _ => none

/-- What has been read of a command line. -/
structure Reading where
  config : Option String := none
  cwd : Option String := none
  executable : Option String := none
  logLevel : Option LogLevel := none
  noDiagnostics : Bool := false
  dryRun : Bool := false
  /-- The last option with a value, as long as the value is not checked; it may yet be missing. -/
  pending : Option (ValueOption × Option String) := none
  verb : Option String := none
  /-- Whether `--` or the arguments for the tool have been reached. -/
  trailing : Bool := false
  /-- The arguments for the tool, last one first. -/
  argsReversed : List String := []
  deriving Repr

/-- Whether an option with a value has been given. -/
def Reading.isGiven (r : Reading) : ValueOption → Bool
  | .config => r.config.isSome
  | .cwd => r.cwd.isSome
  | .executable => r.executable.isSome
  | .logLevel => r.logLevel.isSome

/-- An option given a value. The one for the tool may be empty. -/
def Reading.give (r : Reading) (o : ValueOption) (value : Option String) :
    Except Refusal Reading :=
  match value with
  | none => .error .invalidValue
  | some value =>
    if r.isGiven o then .error .argumentConflict
    else match o with
      | .config => if value = "" then .error .invalidValue else .ok { r with config := some value }
      | .cwd => if value = "" then .error .invalidValue else .ok { r with cwd := some value }
      | .executable => .ok { r with executable := some value }
      | .logLevel =>
        match level? value with
        | some level => .ok { r with logLevel := some level }
        | none => .error .invalidValue

/-- The value of the last option checked, if it has not been yet. -/
def Reading.settle (r : Reading) : Except Refusal Reading :=
  match r.pending with
  | none => .ok r
  | some (o, value) => { r with pending := none }.give o value

/-- A flag given. -/
def Reading.raise (r : Reading) (f : Flag) : Except Refusal Reading := do
  let r ← r.settle
  match f with
  | .help => .error .displayHelp
  | .version => .error .displayVersion
  | .noDiagnostics =>
    if r.noDiagnostics then .error .argumentConflict else .ok { r with noDiagnostics := true }
  | .dryRun => if r.dryRun then .error .argumentConflict else .ok { r with dryRun := true }

/-- A word that is neither an option nor the value of one. -/
def Reading.word (r : Reading) (s : String) : Except Refusal Reading := do
  let r ← r.settle
  match r.verb with
  | none => .ok { r with verb := some s }
  | some _ => .ok { r with trailing := true, argsReversed := s :: r.argsReversed }

/-- A word where an option may be waiting for its value. -/
def Reading.valueOrWord (r : Reading) (s : String) : Except Refusal Reading :=
  match r.pending with
  | some (o, none) => .ok { r with pending := some (o, some s) }
  | _ => r.word s

/-- A word that looks like an option but is none. Behind the verb it is a word like any other. -/
def Reading.unknown (r : Reading) (s : String) : Except Refusal Reading :=
  if r.verb.isSome then r.valueOrWord s else .error .unknownArgument

/-- The name of a long option, and the value written behind it with `=`. -/
def splitOption (cs : List Char) : String × Option String :=
  (String.ofList (cs.takeWhile (· ≠ '=')),
    (cs.dropWhile (· ≠ '=')).tail?.map String.ofList)

/-- A word that starts with two hyphens. -/
def Reading.long (r : Reading) (s : String) (cs : List Char) : Except Refusal Reading :=
  match splitOption cs with
  | (name, value) =>
    match longOption? name, value with
    | some (.value o), some value => do
      let r ← r.settle
      r.give o (some value)
    | some (.value o), none => do
      let r ← r.settle
      .ok { r with pending := some (o, none) }
    | some (.flag _), some _ => .error .tooManyValues
    | some (.flag f), none => r.raise f
    | none, _ => r.unknown s

/-- A word that starts with one hyphen. Behind the verb all its letters have to be options. -/
def Reading.short (r : Reading) (s : String) (cs : List Char) : Except Refusal Reading :=
  if r.verb.isSome ∧ ¬ cs.all fun c => (shortOption? c).isSome then r.unknown s
  else match cs with
    | [] => r.valueOrWord s
    | c :: _ =>
      match shortOption? c with
      | some f => r.raise f
      | none => r.unknown s

/-- The next word of a command line. -/
def Reading.next (r : Reading) (s : String) : Except Refusal Reading :=
  if r.trailing then r.word s
  else match s.toList with
    | ['-', '-'] => .ok { r with trailing := true }
    | '-' :: '-' :: cs => r.long s cs
    | '-' :: c :: cs => r.short s (c :: cs)
    | _ => r.valueOrWord s

/-- The end of a command line. -/
def Reading.finish (r : Reading) : Except Refusal CommandLine := do
  let r ← r.settle
  match r.verb with
  | none => .error .missingRequiredArgument
  | some verb =>
    .ok {
      config := r.config, cwd := r.cwd, executable := r.executable, logLevel := r.logLevel
      noDiagnostics := r.noDiagnostics, dryRun := r.dryRun, verb
      args := r.argsReversed.reverse }

/-- What a list of words asks for. -/
def parse (words : List String) : Except Refusal CommandLine := do
  (← words.foldlM Reading.next {}).finish

end CommandLine

end BuildRunner
