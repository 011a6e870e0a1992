import BuildRunner.Diagnostic.Range
import BuildRunner.Diagnostic.Severity
import BuildRunner.Path
import BuildRunner.Text.Lines

/-!
Diagnostics: what the tool has to say about a place in a file, with related notes as children.
-/

namespace BuildRunner

/-- A remark about a place in a file. -/
inductive Diagnostic where
  | mk (path : Path) (range : Range) (severity : Severity) (message : String)
      (code : Option String) (children : List Diagnostic)
  deriving Inhabited, Repr

namespace Diagnostic

/-- The file. -/
def path : Diagnostic → Path
  | mk path _ _ _ _ _ => path

/-- The place in the file. -/
def range : Diagnostic → Range
  | mk _ range _ _ _ _ => range

/-- How grave it is. -/
def severity : Diagnostic → Severity
  | mk _ _ severity _ _ _ => severity

/-- What is said. -/
def message : Diagnostic → String
  | mk _ _ _ message _ _ => message

/-- The code under which the tool explains it. -/
def code : Diagnostic → Option String
  | mk _ _ _ _ code _ => code

/-- Related places and suggestions. -/
def children : Diagnostic → List Diagnostic
  | mk _ _ _ _ _ children => children

mutual

/-- The diagnostic with its path, and those of all below it, resolved against a directory. -/
def resolve (base : Path) : Diagnostic → Diagnostic
  | mk path range severity message code children =>
    mk (base.resolve path) range severity message code (resolveAll base children)

/-- Every diagnostic of a list resolved against a directory. -/
def resolveAll (base : Path) : List Diagnostic → List Diagnostic
  | [] => []
  | d :: ds => resolve base d :: resolveAll base ds

end

/-- Whether two diagnostics would look alike in an editor. -/
def sameReport (d e : Diagnostic) : Bool :=
  d.range == e.range && d.severity == e.severity && d.message == e.message

mutual

/-- Whether two diagnostics agree in everything, paths by their components. -/
def same : Diagnostic → Diagnostic → Bool
  | mk p r s m c ds, mk p' r' s' m' c' ds' =>
    p.same p' && r == r' && s == s' && m == m' && c == c' && sameAll ds ds'

/-- Whether two lists of diagnostics agree one by one. -/
def sameAll : List Diagnostic → List Diagnostic → Bool
  | [], [] => true
  | d :: ds, e :: es => same d e && sameAll ds es
  | _, _ => false

end

/-- One line about a diagnostic, `path:line:column: severity[code]: message`, its coordinates
counted from one and only the first line of its message. The sums are those of natural numbers. In
32 bits they are the same as long as both coordinates are below `Range.maxCoordinate`, which holds
of every diagnostic that is read from the tool; one more than the largest would overflow. -/
def line (d : Diagnostic) : String :=
  d.path.text ++ ":" ++ toString (d.range.start.line + 1) ++ ":" ++
    toString (d.range.start.column + 1) ++ ": " ++ d.severity.label ++
    (match d.code with | some c => "[" ++ c ++ "]" | none => "") ++ ": " ++
    Text.firstLine d.message

end Diagnostic

end BuildRunner
