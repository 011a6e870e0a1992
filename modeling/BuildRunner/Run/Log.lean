import BuildRunner.CommandLine
import BuildRunner.Run.Session

/-!
What a session logs about the events it handles, by level: every event is worth a line for
debugging, the steps of a run are news, a run that cannot be set up is a warning, what the user is
told to be wrong is an error, and what becomes of a message of the tool is traced.
-/

namespace BuildRunner.Session

/-- Whether something is traced about a line that looks like a message: it is none, it settles the
format, it holds no diagnostic, or it holds one that is dropped. -/
def isTraced (s : Session) (cwd : Path) (text : String) : Bool :=
  match Message.object? text with
  | none => true
  | some v =>
    let (reading, format) := Message.read s.core.format text
    let isDropped := match reading.diagnostic with
      | some d => s.enabled && (s.published.publish d cwd).2.isNone
      | none => false
    (s.core.format.isNone && format.isSome) || isDropped ||
      (format == some .envelope && v.getString? "reason" != some Message.diagnosticReason)

/-- What is logged about an event on its own. -/
def levelsOfEvent (s : Session) : Event → List LogLevel
  | .prepareFailed _ _ => [.debug, .warn]
  | .process e =>
    match e.what, s.core.slot with
    | .failed _, _ => [.debug, .warn]
    | .line .stdout text, .running _ invocation _ =>
      if Core.looksLikeObject text && s.isTraced invocation.command.cwd text then [.debug, .trace]
      else [.debug]
    | _, _ => [.debug]
  | _ => [.debug]

/-- What is logged about an effect. -/
def levelsOfEffect : Effect → List LogLevel
  | .error _ => [.error]
  | .info _ => [.info]
  | .kill _ => [.info]
  | .notice _ => [.info]
  | .busy _ => [.debug]
  | .spawn _ _ => [.debug]
  | .probe _ => [.debug]
  | _ => []

end BuildRunner.Session
