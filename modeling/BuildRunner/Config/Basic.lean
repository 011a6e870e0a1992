import BuildRunner.Text.Blank
import BuildRunner.Toml.Document
import BuildRunner.Verb

/-!
The configuration: the tool to run, what becomes of its diagnostics, and the arguments that each
kind of verb adds. A text is a configuration when it names nothing else; one that names an empty
tool or an empty argument is refused.
-/

namespace BuildRunner

/-- The arguments that each kind of verb adds. -/
structure ArgLists where
  build : List String := []
  check : List String := []
  lint : List String := []
  run : List String := []
  test : List String := []
  deriving DecidableEq, Repr, Inhabited

namespace ArgLists

/-- The arguments of a kind. -/
def ofKind (a : ArgLists) : ArgKind → List String
  | .build => a.build
  | .check => a.check
  | .lint => a.lint
  | .run => a.run
  | .test => a.test

/-- The arguments that a verb adds. -/
def ofVerb (a : ArgLists) (v : Verb) : List String := (v.argKind.map a.ofKind).getD []

/-- The first empty argument, in the order of the kinds. -/
def fault? (a : ArgLists) : Option ConfigError :=
  ArgKind.all.findSome? fun kind =>
    ((a.ofKind kind).findIdx? (· = "")).map (.emptyArgument kind.name ·)

end ArgLists

/-- A configuration. -/
structure Config where
  executable : String := "cargo"
  /-- Whether diagnostics are published. -/
  enabled : Bool := true
  /-- Whether a diagnostic that looks like an earlier one of its file is dropped. -/
  dedupe : Bool := false
  /-- Whether the rendered text of messages is put out. -/
  echoRendered : Bool := true
  args : ArgLists := {}
  deriving DecidableEq, Repr, Inhabited

namespace Config

/-- The value of a field, or what counts where there is none; `none` for a value of another
kind. -/
def fieldOr {α : Type} (read : Toml → Option α) (missing : α) (field : Option Toml) : Option α :=
  match field with
  | none => some missing
  | some v => read v

/-- The tool of a section. -/
def readTool (v : Toml) : Option String := do
  match ← v.fields? ["executable"] with
  | [executable] => fieldOr Toml.string? "cargo" executable
  | _ => none

/-- The three switches of a section. -/
def readSwitches (v : Toml) : Option (Bool × Bool × Bool) := do
  match ← v.fields? ["enabled", "dedupe", "echo_rendered"] with
  | [enabled, dedupe, echoRendered] =>
    return (← fieldOr Toml.boolean? true enabled, ← fieldOr Toml.boolean? false dedupe,
      ← fieldOr Toml.boolean? true echoRendered)
  | _ => none

/-- The arguments of a section. -/
def readArgs (v : Toml) : Option ArgLists := do
  match ← v.fields? ["build", "check", "lint", "run", "test"] with
  | [build, check, lint, run, test] =>
    return {
      build := ← fieldOr Toml.strings? [] build
      check := ← fieldOr Toml.strings? [] check
      lint := ← fieldOr Toml.strings? [] lint
      run := ← fieldOr Toml.strings? [] run
      test := ← fieldOr Toml.strings? [] test }
  | _ => none

/-- The configuration that a table holds. -/
def ofToml? (v : Toml) : Option Config := do
  match ← v.fields? ["tool", "diagnostics", "args"] with
  | [tool, diagnostics, args] =>
    let executable ← fieldOr readTool "cargo" tool
    let (enabled, dedupe, echoRendered) ← fieldOr readSwitches (true, false, true) diagnostics
    let args ← fieldOr readArgs {} args
    return { executable, enabled, dedupe, echoRendered, args }
  | _ => none

/-- The configuration that a text spells, not checked yet. -/
def parse (text : String) : Except Failure Config :=
  match (Toml.parse? text).bind ofToml? with
  | some c => .ok c
  | none => .error .toml

/-- What is wrong with a configuration: its tool comes first, then its arguments. -/
def fault? (c : Config) : Option ConfigError :=
  if Text.isBlankText c.executable then some .emptyExecutable else c.args.fault?

/-- A configuration with nothing wrong. -/
def validate (c : Config) : Except Failure Config :=
  match c.fault? with
  | some e => .error (.config e)
  | none => .ok c

/-- The configuration that a text spells. -/
def ofText (text : String) : Except Failure Config := do
  (← parse text).validate

/-- The configuration with another tool. -/
def withExecutable (c : Config) (executable : String) : Config := { c with executable }

/-- The name of the file that a configuration is looked for in. -/
def defaultName : String := "Buildpipe.toml"

end Config

end BuildRunner
