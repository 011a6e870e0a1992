import BuildRunner.Path

/-!
What can keep a run from being set up, and the wording of it.
-/

namespace BuildRunner

/-- Why a file could not be read. -/
inductive FileError where
  | notFound
  | isDirectory
  | notDirectory
  | notUtf8
  | nameWithNul
  deriving DecidableEq, Repr

namespace FileError

/-- The wording of a failed read. -/
def message : FileError → String
  | notFound => "No such file or directory (os error 2)"
  | isDirectory => "Is a directory (os error 21)"
  | notDirectory => "Not a directory (os error 20)"
  | notUtf8 => "stream did not contain valid UTF-8"
  | nameWithNul => "file name contained an unexpected NUL byte"

end FileError

/-- Why a verb cannot be run. -/
inductive VerbError where
  | unknown (text : String)
  | unnamed
  | flagLike (name : String)
  deriving DecidableEq, Repr

namespace VerbError

/-- The wording of a refused verb. -/
def message : VerbError → String
  | unknown text => "unknown verb '" ++ text ++ "' (use custom:<subcommand> for others)"
  | unnamed => "custom verb needs a subcommand name"
  | flagLike name => "custom subcommand '" ++ name ++ "' looks like a flag"

end VerbError

/-- What is wrong with a configuration. -/
inductive ConfigError where
  | emptyExecutable
  | emptyArgument (section_ : String) (index : Nat)
  deriving DecidableEq, Repr

namespace ConfigError

/-- The wording of a refused configuration. -/
def message : ConfigError → String
  | emptyExecutable => "[tool].executable must not be empty"
  | emptyArgument kind index =>
    "[args]." ++ kind ++ " has an empty argument at index " ++ toString index

end ConfigError

/-- Why no working directory was found. -/
inductive DirectoryError where
  | notDirectory (dir : Path)
  | noManifest (start : Path)
  | other (reason : String)
  deriving DecidableEq, Repr

namespace DirectoryError

/-- The wording of a failed search for a working directory. -/
def message : DirectoryError → String
  | notDirectory dir => dir.text ++ " is not a directory"
  | noManifest start => "no Cargo.toml found in " ++ start.text ++ " or any parent directory"
  | other reason => reason

end DirectoryError

/-- What can keep a run from being set up. -/
inductive Failure where
  | config (e : ConfigError)
  | file (e : FileError)
  | toml
  | directory (e : DirectoryError)
  | verb (e : VerbError)
  | closed
  deriving DecidableEq, Repr

namespace Failure

/-- The wording of a failure. -/
def message : Failure → String
  | config e => "Configuration error: " ++ e.message
  | file e => "IO error: " ++ e.message
  | toml => "TOML parsing error"
  | directory e => "Cannot resolve a working directory: " ++ e.message
  | verb e => "Unhandled verb: " ++ e.message
  | closed => "orchestrator is no longer running"

end Failure

end BuildRunner
