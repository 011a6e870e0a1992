import BuildRunner.Diagnostic.Snapshot
import BuildRunner.Run.Request

/-!
The line that sums up a run that is over.
-/

namespace BuildRunner

/-- What is said of a run by its outcome. -/
def Outcome.sentence (verb : Verb) (elapsed : Duration) : Outcome → String
  | .completed code =>
    verb.text ++ " finished with exit code " ++ toString code ++ " in " ++
      elapsed.secondsText ++ "s"
  | .cancelled => verb.text ++ " cancelled after " ++ elapsed.secondsText ++ "s"
  | .startFailed error => verb.text ++ " could not start: " ++ error.message
  | .abnormal => verb.text ++ " terminated abnormally after " ++ elapsed.secondsText ++ "s"

/-- The line that sums up a run, with the counts of its diagnostics if there are any. -/
def summaryLine (verb : Verb) (outcome : Outcome) (elapsed : Duration) (s : Snapshot) : String :=
  outcome.sentence verb elapsed ++ (if s.isEmpty then "" else " (" ++ s.status ++ ")")

end BuildRunner
