import BuildRunner.Json.Printer
import BuildRunner.Message.Reading

/-!
Messages as the tool writes them, one JSON object a line with its members in alphabetical order.
-/

namespace BuildRunner.Message

/-- A span to be written; coordinates count from one. -/
structure SpanSpec where
  file : String
  lineStart : Nat
  columnStart : Nat
  lineEnd : Nat
  columnEnd : Nat
  isPrimary : Bool := true
  label : Option String := none
  deriving Repr

namespace SpanSpec

/-- A span beside the primary one, on a single line and with a label. -/
def secondary (file : String) (line columnStart columnEnd : Nat) (label : String) : SpanSpec :=
  ⟨file, line, columnStart, line, columnEnd, false, some label⟩

/-- A text, or null. -/
def ofText? : Option String → Json
  | some s => .string s
  | none => .null

/-- The span as a value. -/
def toJson (s : SpanSpec) : Json :=
  .object [
    ("byte_end", .natural 0), ("byte_start", .natural 0),
    ("column_end", .natural s.columnEnd), ("column_start", .natural s.columnStart),
    ("expansion", .null), ("file_name", .string s.file), ("is_primary", .bool s.isPrimary),
    ("label", ofText? s.label), ("line_end", .natural s.lineEnd),
    ("line_start", .natural s.lineStart), ("suggested_replacement", .null)]

end SpanSpec

/-- A diagnostic to be written. -/
inductive DiagnosticSpec where
  | mk (level message : String) (spans : List SpanSpec) (code : Option String)
      (children : List DiagnosticSpec)
  deriving Repr

namespace DiagnosticSpec

/-- A code as a value. -/
def codeJson : Option String → Json
  | some code => .object [("code", .string code), ("explanation", .null)]
  | none => .null

mutual

/-- The diagnostic as a value. Its rendered text is its level and message on one line. -/
def toJson : DiagnosticSpec → Json
  | mk level message spans code children =>
    .object [
      ("$message_type", .string "diagnostic"), ("children", .array (toJsons children)),
      ("code", codeJson code), ("level", .string level), ("message", .string message),
      ("rendered", .string (level ++ ": " ++ message ++ "\n")),
      ("spans", .array (spans.map SpanSpec.toJson))]

/-- The values of several diagnostics. -/
def toJsons : List DiagnosticSpec → List Json
  | [] => []
  | d :: ds => toJson d :: toJsons ds

end

end DiagnosticSpec

/-- What the messages say of the package that is built. -/
def packageId : Json := .string "path+file:///work/demo#0.1.0"

/-- An envelope around a diagnostic. -/
def compilerMessage (d : DiagnosticSpec) : Json :=
  .object [
    ("manifest_path", .string "/work/demo/Cargo.toml"), ("message", d.toJson),
    ("package_id", packageId), ("reason", .string diagnosticReason),
    ("target", .object [
      ("kind", .array [.string "lib"]), ("name", .string "demo"),
      ("src_path", .string "/work/demo/src/lib.rs")])]

/-- An envelope around a diagnostic about one character. -/
def simpleMessage (level message file : String) (line column : Nat) : Json :=
  compilerMessage (.mk level message [⟨file, line, column, line, column + 1, true, none⟩] none [])

/-- The message that a file was built. -/
def compilerArtifact : Json :=
  .object [
    ("filenames", .array [.string "/work/demo/target/debug/libdemo.rlib"]),
    ("fresh", .bool false), ("package_id", packageId),
    ("reason", .string "compiler-artifact"),
    ("target", .object [("kind", .array [.string "lib"]), ("name", .string "demo")])]

/-- The message that the build is over. -/
def buildFinished (success : Bool) : Json :=
  .object [("reason", .string "build-finished"), ("success", .bool success)]

end BuildRunner.Message
