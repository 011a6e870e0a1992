import BuildRunner.Diagnostic.Basic
import BuildRunner.Json.Reader
import BuildRunner.Message.Span
import BuildRunner.Text.Blank

/-!
Lines of output read as messages of the tool. A message is a JSON object of one of two formats: an
envelope that names its reason, or a bare diagnostic. The first line that has either form settles
the format of all that follow. Nothing here fails: what is not a message holds no diagnostics.
-/

namespace BuildRunner.Message

/-- The two formats of messages. -/
inductive Format where
  /-- An object with a `reason`; the diagnostic stands in its `message`. -/
  | envelope
  /-- The diagnostic itself. -/
  | bare
  deriving DecidableEq, Repr

/-- The reason of an envelope that holds a diagnostic. -/
def diagnosticReason : String := "compiler-message"

/-- The format that an object shows. -/
def Format.detect? (v : Json) : Option Format :=
  if v.has "reason" then some .envelope
  else if v.has "level" && v.has "spans" then some .bare
  else none

/-- What a line holds. -/
structure Reading where
  isJson : Bool
  isDiagnostic : Bool
  diagnostic : Option Diagnostic
  rendered : Option String
  deriving Repr

namespace Reading

/-- A line that is not a JSON object. -/
def plain : Reading := ⟨false, false, none, none⟩

/-- A JSON object without a diagnostic. -/
def skipped : Reading := ⟨true, false, none, none⟩

end Reading

/-! ### Diagnostics of a message -/

/-- The code of a message. -/
def codeOf (v : Json) : Option String := (v.get? "code").bind (·.getString? "code")

/-- The severity of a message. -/
def severityOf (v : Json) : Severity := .ofLevel ((v.getString? "level").getD "")

/-- The note that a span beside the primary one gives rise to. It says what its label says, else
what the message says, and is as grave as the message when it is primary itself. -/
def noteOfSpan (severity : Severity) (message : String) (s : Span) : Option Diagnostic :=
  s.resolve?.map fun p =>
    .mk ⟨p.file⟩ p.range (if s.isPrimary then severity else .note) (s.label.getD message) none []

/-- The note that a child of a message gives rise to, unless it says nothing. Without a place of
its own it points at that of its parent; a suggested replacement is added to what it says. -/
def noteOfChild (parent : Place) (v : Json) : Option Diagnostic :=
  let text := (v.getString? "message").getD ""
  if text = "" then none
  else
    let spans := spansOf v
    let span := (primaryIndex? spans).bind (spans[·]?)
    let place := (span.bind Span.resolve?).getD parent
    let message := match span.bind (nonEmpty? ·.replacement) with
      | some replacement => text ++ ": `" ++ replacement ++ "`"
      | none => text
    some (.mk ⟨place.file⟩ place.range (severityOf v) message (codeOf v) [])

/-- What a message says, with the label of its primary span when that says something else. -/
def fullMessage (message : String) (primary : Span) : String :=
  match primary.label with
  | some label => if label = message then message else message ++ "\n" ++ label
  | none => message

/-- The diagnostic of a message: none without a place in a file. Its children are the other spans
that lie in files, in order, and then the children of the message. -/
def diagnosticOf (v : Json) : Option Diagnostic := do
  let spans := spansOf v
  let index ← primaryIndex? spans
  let primary ← spans[index]?
  let place ← primary.resolve?
  let severity := severityOf v
  let message := (v.getString? "message").getD ""
  let others := (spans.eraseIdx index).filterMap (noteOfSpan severity message)
  let children := (((v.get? "children").bind Json.array?).getD []).filter (·.object?.isSome)
  return .mk ⟨place.file⟩ place.range severity (fullMessage message primary) (codeOf v)
    (others ++ children.filterMap (noteOfChild place))

/-! ### Lines -/

/-- The object with the diagnostic in an object of a given format. -/
def Format.body? (v : Json) : Format → Option Json
  | .envelope =>
    if v.getString? "reason" = some diagnosticReason then
      (v.get? "message").filter (·.object?.isSome)
    else none
  | .bare => if v.has "level" then some v else none

/-- What an object of a given format holds. -/
def readObject (format : Format) (v : Json) : Reading :=
  match format.body? v with
  | none => .skipped
  | some body => ⟨true, true, diagnosticOf body, body.getString? "rendered"⟩

/-- The object that a line spells; blank space around it does not count. -/
def object? (line : String) : Option Json :=
  (Json.parse? (Text.trimChars line.toList)).filter (·.object?.isSome)

/-- What a line holds, and the format settled on behind it. -/
def read (format : Option Format) (line : String) : Reading × Option Format :=
  match object? line with
  | none => (.plain, format)
  | some v =>
    match format.or (Format.detect? v) with
    | none => (.skipped, none)
    | some f => (readObject f v, some f)

end BuildRunner.Message
