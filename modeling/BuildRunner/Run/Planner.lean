import BuildRunner.Config.Basic
import BuildRunner.Run.Request

/-!
Requests made into commands: the subcommand, the flag for JSON messages where the verb asks for
them, the configured arguments of the verb, and those of the request. Where the tool may lack the
subcommand it is asked once, and the answer is kept.
-/

namespace BuildRunner

/-- A question put to the tool: the program, and the arguments it is run with. -/
structure Question where
  executable : String
  args : List String
  deriving DecidableEq, Repr

/-- The tool, the configured arguments, and the answers that the tool has given. -/
structure Planner where
  executable : String
  args : ArgLists
  answers : List (Question × Bool)
  deriving Repr

namespace Planner

/-- The flag for JSON messages. -/
def jsonFlag : List String := ["--message-format", "json"]

/-- The arguments of a verb run as a subcommand. -/
def argumentVector (verb : Verb) (subcommand : String) (configured extra : List String) :
    List String :=
  subcommand :: (if verb.isStructured then jsonFlag else []) ++ configured ++ extra

/-- A planner that has asked nothing yet. -/
def new (executable : String) (args : ArgLists) : Planner := ⟨executable, args, []⟩

/-- The question of a rule. -/
def question (p : Planner) (rule : ProbeRule) : Question := ⟨p.executable, rule.args⟩

/-- The answer that the tool has given to a question. -/
def answer? (p : Planner) (q : Question) : Option Bool :=
  (p.answers.find? fun e => e.1 = q).map (·.2)

/-- A planner that knows one answer more. -/
def learn (p : Planner) (q : Question) (supported : Bool) : Planner :=
  { p with answers := (q, supported) :: p.answers }

/-- The invocation of a request under a subcommand. -/
def invocation (p : Planner) (request : Request) (subcommand : String) (cwd : Path) : Invocation :=
  { verb := request.verb
    command := ⟨p.executable,
      argumentVector request.verb subcommand (p.args.ofVerb request.verb) request.args, cwd⟩
    structured := request.verb.isStructured }

/-- The invocation of a request under the subcommand of its verb. -/
def planUnprobed (p : Planner) (request : Request) (cwd : Path) : Invocation :=
  p.invocation request request.verb.subcommand cwd

/-- The invocation of a request, given whether the tool has its subcommand. -/
def under (p : Planner) (rule : ProbeRule) (supported : Bool) (request : Request) (cwd : Path) :
    Invocation :=
  p.invocation request (if supported then request.verb.subcommand else rule.fallback) cwd

/-- The probe of a rule: its question, put in a directory. -/
def probe (p : Planner) (rule : ProbeRule) (cwd : Path) : Command := ⟨p.executable, rule.args, cwd⟩

/-- What a request comes to with the answers at hand. -/
inductive Consultation where
  /-- Its invocation is known. -/
  | settled (i : Invocation)
  /-- The tool has to be asked first. -/
  | probing (rule : ProbeRule)

/-- What a request comes to with the answers at hand. -/
def consult (p : Planner) (request : Request) (cwd : Path) : Consultation :=
  match request.verb.probe with
  | none => .settled (p.planUnprobed request cwd)
  | some rule =>
    match p.answer? (p.question rule) with
    | some supported => .settled (p.under rule supported request cwd)
    | none => .probing rule

/-- What a request was made into, and the probe that was run for it. -/
structure Plan where
  planner : Planner
  invocation : Invocation
  probe : Option Command

/-- The invocation of a request. `supports` runs a probe and says whether it went well. -/
def plan (p : Planner) (supports : Command → Bool) (request : Request) (cwd : Path) : Plan :=
  match p.consult request cwd with
  | .settled i => ⟨p, i, none⟩
  | .probing rule =>
    let probe := p.probe rule cwd
    let supported := supports probe
    ⟨p.learn (p.question rule) supported, p.under rule supported request cwd, some probe⟩

end Planner

end BuildRunner
