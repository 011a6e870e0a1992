import BuildRunner.Error
import BuildRunner.Text.Blank
import BuildRunner.Text.LowerCase

/-!
The verbs a build can be asked for, what is known about each of them, and the text of a verb. A
verb outside the fixed set is spelled `custom:` and the name of its subcommand.
-/

namespace BuildRunner

/-- What the build tool is asked to do. -/
inductive Verb where
  | build
  | check
  | lint
  | test
  | run
  | bench
  | doc
  | update
  | clean
  | new
  | init
  | custom (name : String)
  deriving DecidableEq, Repr, Inhabited

/-- The kinds of verb that take arguments of their own from the configuration. -/
inductive ArgKind where
  | build
  | check
  | lint
  | run
  | test
  deriving DecidableEq, Repr

namespace ArgKind

/-- Every kind, in the order of the configuration. -/
def all : List ArgKind := [build, check, lint, run, test]

/-- The name of a kind. -/
def name : ArgKind → String
  | build => "build"
  | check => "check"
  | lint => "lint"
  | run => "run"
  | test => "test"

end ArgKind

/-- How to find out whether the tool knows a subcommand, and what to run where it does not. -/
structure ProbeRule where
  args : List String
  fallback : String
  deriving DecidableEq, Repr

namespace Verb

/-- The subcommand of a verb; the name of a custom verb is its own. -/
def subcommand : Verb → String
  | build => "build"
  | check => "check"
  | lint => "clippy"
  | test => "test"
  | run => "run"
  | bench => "bench"
  | doc => "doc"
  | update => "update"
  | clean => "clean"
  | new => "new"
  | init => "init"
  | custom name => name

/-- The kind of the arguments that the configuration holds for a verb. -/
def argKind : Verb → Option ArgKind
  | build => some .build
  | check => some .check
  | lint => some .lint
  | test => some .test
  | run => some .run
  | _ => none

/-- Whether the tool is asked for one JSON message a line. -/
def isStructured (v : Verb) : Bool := v.argKind.isSome

/-- How to find out whether the tool knows the subcommand of a verb. -/
def probe : Verb → Option ProbeRule
  | check => some ⟨["check", "--help"], "build"⟩
  | lint => some ⟨["clippy", "--version"], "check"⟩
  | _ => none

/-- The subcommand in the table of verbs, which holds none for custom ones. -/
def tableSubcommand : Verb → String
  | custom _ => ""
  | v => v.subcommand

/-- What stands before the name of a custom verb. -/
def customMark : String := "custom:"

/-- The text of a verb. -/
def text : Verb → String
  | lint => "lint"
  | custom name => customMark ++ name
  | v => v.subcommand

/-- What keeps a verb from being run: a name that is blank or looks like a flag. -/
def fault? : Verb → Option VerbError
  | custom name =>
    if Text.isBlankText name then some .unnamed
    else if name.toList.head? = some '-' then some (.flagLike name)
    else none
  | _ => none

/-- The fixed verb with a name in lower case. -/
def named? : String → Option Verb
  | "build" => some build
  | "check" => some check
  | "lint" => some lint
  | "clippy" => some lint
  | "test" => some test
  | "run" => some run
  | "bench" => some bench
  | "doc" => some doc
  | "update" => some update
  | "clean" => some clean
  | "new" => some new
  | "init" => some init
  | _ => none

/-- The text behind the mark of a custom verb. -/
def customName? (s : String) : Option String :=
  if customMark.toList.isPrefixOf s.toList then
    some (String.ofList (s.toList.drop customMark.toList.length))
  else none

/-- The verb that a text names. Blank space around the text and around a custom name does not
count, nor does the case of a fixed name. -/
def ofText (s : String) : Except VerbError Verb :=
  let s := Text.trim s
  match customName? s with
  | some name =>
    let v := custom (Text.trim name)
    match v.fault? with
    | some e => .error e
    | none => .ok v
  | none =>
    match named? (Text.lowerCase s) with
    | some v => .ok v
    | none => .error (.unknown (Text.lowerCase s))

end Verb

end BuildRunner
