import BuildRunner.Path

/-!
Command lines, ready to be started, and why a start can fail.
-/

namespace BuildRunner

/-- A program, its arguments and the directory it runs in. -/
structure Command where
  program : String
  args : List String
  cwd : Path
  deriving DecidableEq, Repr, Inhabited

namespace Command

/-- The program and its arguments with single spaces between them. -/
def line (c : Command) : String := " ".intercalate (c.program :: c.args)

end Command

/-- What the system says about a failed start. -/
inductive SystemError where
  | notFound
  | permissionDenied
  | other (message : String)
  deriving DecidableEq, Repr

namespace SystemError

/-- What a number of the system's own stands for. -/
def ofNumber (n : Nat) : SystemError :=
  let text : String := match n with
    | 7 => "Argument list too long"
    | 8 => "Exec format error"
    | 12 => "Cannot allocate memory"
    | 20 => "Not a directory"
    | 26 => "Text file busy"
    | n => "Unknown error " ++ toString n
  if n = 2 then notFound
  else if n = 1 ∨ n = 13 then permissionDenied
  else other (text ++ " (os error " ++ toString n ++ ")")

end SystemError

/-- Why a program could not be started. -/
inductive StartError where
  | notFound (program : String)
  | permissionDenied (program : String)
  | other (program message : String)
  deriving DecidableEq, Repr

namespace StartError

/-- The failed start of a program. -/
def ofSystem (program : String) : SystemError → StartError
  | .notFound => notFound program
  | .permissionDenied => permissionDenied program
  | .other message => other program message

/-- Whether the program does not exist. -/
def isNotFound : StartError → Bool
  | notFound _ => true
  | _ => false

/-- The wording of a failed start. -/
def message : StartError → String
  | notFound program => "`" ++ program ++ "` was not found"
  | permissionDenied program => "permission denied while starting `" ++ program ++ "`"
  | other program text => "could not start `" ++ program ++ "`: " ++ text

end StartError

end BuildRunner
