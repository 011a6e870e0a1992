import BuildRunner.Shell.Arithmetic
import BuildRunner.Shell.Machine
import BuildRunner.Shell.Pattern
import BuildRunner.Shell.Token

/-!
Words made into fields: parameters, outputs and expressions are replaced, what comes of them outside
quotes is split at the separators, and fields that are open patterns are replaced by the names of
the files they stand for.
-/

namespace BuildRunner.Shell

/-- A part of what a word is made into. -/
inductive Bit where
  /-- A character; it may separate fields if it came from a replacement outside quotes. -/
  | glyph (g : Glyph) (maySplit : Bool)
  /-- The field is there even if it is empty. -/
  | present
  /-- One field ends, and another begins. -/
  | boundary
  deriving Repr

namespace Expansion

open Act

/-! ### Fields -/

/-- The fields of the parts of a word. Of the separators, blank ones only keep fields apart, while
each other one ends a field. -/
def fields (separators : List Char) : Option (List Glyph) → List Bit → List (List Glyph)
  | none, [] => []
  | some gs, [] => [gs.reverse]
  | now, .present :: bs => fields separators (some (now.getD [])) bs
  | none, .boundary :: bs => fields separators none bs
  | some gs, .boundary :: bs => gs.reverse :: fields separators none bs
  | now, .glyph g maySplit :: bs =>
    if maySplit && separators.contains g.char then
      match now with
      | some gs => gs.reverse :: fields separators none bs
      | none =>
        if g.char = ' ' || g.char = '\t' || g.char = '\n' then fields separators none bs
        else [] :: fields separators none bs
    else fields separators (some (g :: now.getD [])) bs

/-- The text of a field. -/
def textOf (gs : List Glyph) : String := String.ofList (gs.map (·.char))

/-- The parts of a text, in quotes or not. -/
def bitsOf (text : String) (inQuotes : Bool) : List Bit :=
  (if inQuotes then [.present] else []) ++
    text.toList.map fun c => .glyph ⟨c, inQuotes⟩ (!inQuotes)

/-- The parts of several texts, with something between them. -/
def joinBits (between : List Bit) (texts : List (List Bit)) : List Bit :=
  (texts.intersperse between).flatten

/-- The characters that separate fields. -/
def separators : Act (List Char) := do
  return ((← valueOf? "IFS").getD " \t\n").toList

/-! ### Parameters -/

/-- The value of a parameter that is not a list. -/
def scalar? (name : String) : Act (Option String) := do
  let l ← mine
  match name with
  | "?" => return some (toString l.status)
  | "$" => return some (toString l.scriptPid)
  | "#" => return some (toString l.positional.length)
  | "0" => return some l.name
  | "-" => return some (String.ofList l.options)
  | "!" => return l.lastJob.map fun n => toString n
  | "LINENO" => return some (toString l.line)
  | name =>
    match natural? name.toList with
    | some n => return l.positional[n - 1]?
    | none => valueOf? name

/-- The parts of the list of positional parameters. -/
def list (name : String) (inQuotes : Bool) : Act (List Bit) := do
  let ps := (← mine).positional
  if !inQuotes then return joinBits [.boundary] (ps.map fun p => bitsOf p false)
  else if name = "@" then return joinBits [.boundary] (ps.map fun p => bitsOf p true)
  else
    let between := match (← valueOf? "IFS") with
      | none => " "
      | some s => String.ofList (s.toList.take 1)
    return bitsOf (between.intercalate ps) true

/-- What is to be done with a parameter: its name, an operator, and a word. -/
structure Reference where
  name : String
  operator : String := ""
  word : List Char := []

/-- The operators behind the name of a parameter, longer ones first. -/
def operators : List String :=
  [":-", ":=", ":?", ":+", "%%", "##", "-", "=", "?", "+", "%", "#"]

/-- The reference that stands between braces. -/
def Reference.ofText (cs : List Char) : Option Reference :=
  let named (cs : List Char) : List Char := match cs with
    | [] => []
    | c :: rest =>
      if isNameStart c then c :: rest.takeWhile isNameRest
      else if c.isDigit then c :: rest.takeWhile Char.isDigit
      else if Token.isSpecial c then [c]
      else []
  match cs with
  | ['#'] => some ⟨"#", "", []⟩
  | '#' :: rest =>
    let name := named rest
    if name ≠ [] ∧ name = rest then some ⟨String.ofList name, "length", []⟩
    else (operators.find? fun o => o.toList.isPrefixOf rest).map fun o =>
      ⟨"#", o, rest.drop o.length⟩
  | cs =>
    let name := named cs
    let rest := cs.drop name.length
    if name = [] then none
    else if rest = [] then some ⟨String.ofList name, "", []⟩
    else (operators.find? fun o => o.toList.isPrefixOf rest).map fun o =>
      ⟨String.ofList name, o, rest.drop o.length⟩

/-- A script ended by a mistake in it. -/
def fail {α : Type} (text : String) : Act α := do
  complain text
  throw (.exited 2)

/-- The parts of an unset or empty parameter. -/
def missing (name : String) (inQuotes : Bool) : Act (List Bit) := do
  if ← hasOption 'u' then fail (name ++ ": parameter not set")
  return bitsOf "" inQuotes

/-- What is made of a parameter's value; `word` gives the parts of a word. -/
def apply (word : List Char → Act (List Bit)) (r : Reference) (inQuotes : Bool) :
    Act (List Bit) := do
  let isList := r.name = "@" || r.name = "*"
  let ps := (← mine).positional
  let value ← if isList then pure (if ps.isEmpty then none else some (" ".intercalate ps))
    else scalar? r.name
  let whole : Act (List Bit) :=
    if isList then list r.name inQuotes else return bitsOf (value.getD "") inQuotes
  let isUsable := if r.operator.startsWith ":" then value.any (· ≠ "") else value.isSome
  let wordGlyphs : Act (List Glyph) := do
    return (← word r.word).filterMap fun
      | .glyph g _ => some g
      | _ => none
  let cut (f : List Mark → List Char → List Char) : Act (List Bit) := do
    let gs ← wordGlyphs
    let marks := Pattern.ofField (gs.length + 1) gs
    return bitsOf (String.ofList (f marks (value.getD "").toList)) inQuotes
  let o := r.operator
  if o = "" then
    if value.isNone && !isList then missing r.name inQuotes else whole
  else if o = "length" then
    return bitsOf (toString (if isList then ps.length else (value.getD "").length)) inQuotes
  else if o = "%" then cut fun ms cs => Pattern.dropBack ms false cs
  else if o = "%%" then cut fun ms cs => Pattern.dropBack ms true cs
  else if o = "#" then cut fun ms cs => Pattern.dropFront ms false cs
  else if o = "##" then cut fun ms cs => Pattern.dropFront ms true cs
  else if o = ":+" || o = "+" then
    if isUsable then word r.word else return bitsOf "" inQuotes
  else if isUsable then whole
  else if o = ":-" || o = "-" then word r.word
  else
    let given := textOf (← wordGlyphs)
    if o = ":=" || o = "=" then
      assign r.name given
      return bitsOf given inQuotes
    else fail (r.name ++ ": " ++ if given = "" then "parameter not set" else given)

/-! ### Words -/

/-- The home directory for a tilde at the front of a word. -/
def tilde (w : Word) : Act Word := do
  match w with
  | .plain s :: rest =>
    match s.toList with
    | '~' :: cs =>
      if (cs = [] && rest.isEmpty) || cs.head? = some '/' then
        return .quoted ((← valueOf? "HOME").getD "~") :: .plain (String.ofList cs) :: rest
      else return w
    | _ => return w
  | w => return w

/-- A text without the double quotes in it that have no backslash in front. -/
def withoutQuotes : List Char → List Char
  | [] => []
  | '\\' :: c :: cs => '\\' :: c :: withoutQuotes cs
  | c :: cs => if c = '"' then withoutQuotes cs else c :: withoutQuotes cs

/-- The text of the parts of a word. -/
def bitsText (bs : List Bit) : String :=
  String.ofList (bs.filterMap fun
    | .glyph g _ => some g.char
    | .boundary => some ' '
    | .present => none)

/-- The parts that pieces of a word are made into. `output` runs a script and gives what it writes;
words inside of words are followed up to a depth. -/
def bits (output : String → Act String) : (depth : Nat) → Word → Act (List Bit)
  | 0, _ => return []
  | depth + 1, w => do
    let mut out := []
    for p in w do
      let bs ← match p with
        | .plain s => pure (s.toList.map fun c => Bit.glyph ⟨c, false⟩ false)
        | .quoted s => pure (bitsOf s true)
        | .output script inQuotes => do pure (bitsOf (← output script) inQuotes)
        | .arithmetic expr inQuotes => do
          let text := bitsText (← bits output depth (Token.quotedWordOf expr.toList))
          match Expr.parse? text.toList with
          | none => fail ("arithmetic expression: expecting primary: \"" ++ text ++ "\"")
          | some e =>
            let l ← mine
            match e.value? (fun s => ((l.bindings.lookup s).map (·.value)).getD "") [] with
            | none => fail ("arithmetic expression: division by zero: \"" ++ text ++ "\"")
            | some (n, made) =>
              for (name, m) in made.reverse do
                assign name (toString m)
              pure (bitsOf (toString n) inQuotes)
        | .parameter expr inQuotes => do
          if expr = "@" || expr = "*" then list expr inQuotes
          else match Reference.ofText expr.toList with
            | none => fail "Bad substitution"
            | some r =>
              let word (cs : List Char) : Act (List Bit) := do
                let w := if inQuotes && !(["%", "%%", "#", "##"].contains r.operator)
                  then Token.quotedWordOf (withoutQuotes cs) else Token.wordOf cs
                bits output depth (← tilde w)
              apply word r inQuotes
      out := out ++ bs
    return out

/-- How deep words in words are followed. -/
def depth : Nat := 40

/-- The text of a word that is not split. -/
def text (output : String → Act String) (w : Word) : Act String := do
  return bitsText (← bits output depth (← tilde w))

/-- The glyphs of a word that is not split. -/
def glyphs (output : String → Act String) (w : Word) : Act (List Glyph) := do
  return (← bits output depth (← tilde w)).filterMap fun
    | .glyph g _ => some g
    | _ => none

/-! ### Names of files -/

/-- The names in a directory, in order. -/
def namesIn (t : FileTree) (p : Place) : List String :=
  let places := t.directories ++ t.files.map (·.1)
  let names := (places.filter fun q => q.dropLast = p && q ≠ []).map fun q => q.getLastD ""
  (names.eraseDups).mergeSort fun a b => a ≤ b

/-- The paths that a pattern stands for, one step after the other. -/
def paths (t : FileTree) : List (List Glyph) → List (Place × String) → List (Place × String)
  | [], found => found
  | step :: steps, found =>
    let isLast := steps.isEmpty
    let next := found.flatMap fun (place, spelled) =>
      if Pattern.isOpen step then
        let marks := Pattern.ofField (step.length + 1) step
        let names := (namesIn t place).filter fun n =>
          Pattern.accepts marks (ofText n).toList &&
            (!n.startsWith "." || (step.head?.map (·.char)) = some '.')
        names.map fun n => (place ++ [n], spelled ++ ofText n)
      else
        let name := toText (textOf step)
        let p : Place := if name = "" || name = "." then place
          else if name = ".." then place.dropLast else place ++ [name]
        match t.entry? p with
        | some (.directory _) => [(p, spelled ++ textOf step)]
        | some (.file _ _) => if name = "" then [] else [(p, spelled ++ textOf step)]
        | none => []
    paths t steps (if isLast then next else next.map fun (p, s) => (p, s ++ "/"))

/-- A field, or the names of the files that it stands for as a pattern. -/
def globbed (gs : List Glyph) : Act (List String) := do
  if (← hasOption 'f') || !Pattern.isOpen gs then return [textOf gs]
  let isAbsolute := (gs.head?.map (·.char)) = some '/'
  let steps := (gs.foldr (fun g (acc : List (List Glyph)) =>
    if g.char = '/' then [] :: acc
    else match acc with
      | [] => [[g]]
      | s :: rest => (g :: s) :: rest) [[]])
  let here := (← mine).directory
  let start : Place × String := if isAbsolute then ([], "/") else (here, "")
  let steps := if isAbsolute then steps.drop 1 else steps
  match paths (← shared).tree steps [start] with
  | [] => return [textOf gs]
  | found => return found.map (·.2)

/-- The fields of a word. -/
def fieldsOf (output : String → Act String) (w : Word) : Act (List String) := do
  let gss := fields (← separators) none (← bits output depth (← tilde w))
  let mut out := []
  for gs in gss do
    out := out ++ (← globbed gs)
  return out

/-- The fields of words. -/
def all (output : String → Act String) (ws : List Word) : Act (List String) := do
  let mut out := []
  for w in ws do
    out := out ++ (← fieldsOf output w)
  return out

end Expansion

end BuildRunner.Shell
