import BuildRunner.Files.Tree
import BuildRunner.Shell.Bytes

/-!
Conditions on texts, numbers and files, as lists of words.
-/

namespace BuildRunner.Shell.Condition

/-- What a question about one word asks. -/
def ofOne (entry : String → Option Entry) (op arg : String) : Option Bool :=
  let file : Option File := match entry arg with
    | some (.file _ f) => some f
    | _ => none
  match op with
  | "-n" => some (arg ≠ "")
  | "-z" => some (arg = "")
  | "-e" => some (entry arg).isSome
  | "-f" => some file.isSome
  | "-d" => some ((entry arg).isSome && file.isNone)
  | "-r" => some (entry arg).isSome
  | "-w" => some (entry arg).isSome
  | "-x" => some ((file.map (·.executable)).getD (entry arg).isSome)
  | "-s" => some ((file.map fun f => !f.bytes.isEmpty).getD (entry arg).isSome)
  | "-L" => some false
  | "-h" => some false
  | "-p" => some false
  | "-b" => some false
  | "-c" => some false
  | "-S" => some false
  | "-t" => some false
  | _ => none

/-- What a question about two numbers asks. -/
def compare? (op : String) : Option (Int → Int → Bool) :=
  match op with
  | "-eq" => some fun a b => a = b
  | "-ne" => some fun a b => a ≠ b
  | "-lt" => some fun a b => a < b
  | "-le" => some fun a b => a ≤ b
  | "-gt" => some fun a b => a > b
  | "-ge" => some fun a b => a ≥ b
  | _ => none

/-- A number with blank space around it. -/
def number (s : String) : Except String Int :=
  let isBlank (c : Char) : Bool := c = ' ' || c = '\t' || c = '\n'
  let cs := ((s.toList.dropWhile isBlank).reverse.dropWhile isBlank).reverse
  match integer? cs with
  | some n => .ok n
  | none => .error ("Illegal number: " ++ s)

/-- Whether a word stands between two others. -/
def isBinary (op : String) : Bool :=
  ["=", "!=", "==", "<", ">"].contains op || (compare? op).isSome

/-- What a question about two words asks. -/
def ofTwo (a op b : String) : Except String Bool :=
  match op with
  | "=" => .ok (a = b)
  | "==" => .ok (a = b)
  | "!=" => .ok (a ≠ b)
  | "<" => .ok (a < b)
  | ">" => .ok (b < a)
  | op =>
    match compare? op with
    | some f => do return f (← number a) (← number b)
    | none => .error (op ++ ": unexpected operator")

mutual

/-- A condition with `-o` between its parts. -/
def disjunction (entry : String → Option Entry) :
    (fuel : Nat) → List String → Except String (Bool × List String)
  | 0, _ => .error "too many arguments"
  | fuel + 1, ws => do
    let (a, ws) ← conjunction entry fuel ws
    match ws with
    | "-o" :: ws =>
      let (b, ws) ← disjunction entry fuel ws
      return (a || b, ws)
    | ws => return (a, ws)

/-- A condition with `-a` between its parts. -/
def conjunction (entry : String → Option Entry) :
    (fuel : Nat) → List String → Except String (Bool × List String)
  | 0, _ => .error "too many arguments"
  | fuel + 1, ws => do
    let (a, ws) ← primary entry fuel ws
    match ws with
    | "-a" :: ws =>
      let (b, ws) ← conjunction entry fuel ws
      return (a && b, ws)
    | ws => return (a, ws)

/-- A condition without parts. A word that is an operator elsewhere is taken as a text where it
cannot be one. -/
def primary (entry : String → Option Entry) :
    (fuel : Nat) → List String → Except String (Bool × List String)
  | 0, _ => .error "too many arguments"
  | fuel + 1, ws =>
    match ws with
    | [] => .error "argument expected"
    | [a] => .ok (a ≠ "", [])
    | a :: op :: b :: rest =>
      if isBinary op then do return (← ofTwo a op b, rest)
      else if a = "!" then do
        let (r, rest) ← primary entry fuel (op :: b :: rest)
        return (!r, rest)
      else if a = "(" then do
        let (r, rest) ← disjunction entry fuel (op :: b :: rest)
        match rest with
        | ")" :: rest => return (r, rest)
        | _ => .error "closing paren expected"
      else match ofOne entry a op with
        | some r => .ok (r, b :: rest)
        | none => .ok (a ≠ "", op :: b :: rest)
    | [a, b] =>
      if a = "!" then .ok (b = "", [])
      else match ofOne entry a b with
        | some r => .ok (r, [])
        | none => .ok (a ≠ "", [b])

end

/-- Whether a condition holds, or what is wrong with it. -/
def holds (entry : String → Option Entry) (ws : List String) : Except String Bool := do
  if ws.isEmpty then return false
  match ← disjunction entry (4 * ws.length + 4) ws with
  | (r, []) => return r
  | (_, w :: _) => .error (w ++ ": unexpected operator")

end BuildRunner.Shell.Condition
