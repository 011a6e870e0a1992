import BuildRunner.Shell.Token

/-!
Scripts read as statements. A script is read line by line, so that what stands in front of a
mistake can still be run.
-/

namespace BuildRunner.Shell

/-- A mistake in the form of a script. -/
structure Mistake where
  line : Nat
  message : String
  deriving DecidableEq, Repr

/-- The statements of a script, up to the first mistake if there is one. -/
structure Script where
  statements : List Statement
  mistake : Option Mistake
  deriving Inhabited

namespace Script

/-- The text of a word without quotes and replacements. -/
def bare? : Word → Option String
  | [.plain s] => some s
  | _ => none

/-- The bare word at the front of the tokens. -/
def front? : List Token → Option String
  | ⟨.word w, _⟩ :: _ => bare? w
  | _ => none

/-- Whether an operator stands at the front of the tokens. -/
def isOperator (o : String) : List Token → Bool
  | ⟨.operator p, _⟩ :: _ => o = p
  | _ => false

/-- What is wrong with the token at the front. -/
def unexpected : List Token → Mistake
  | [] => ⟨1, "Syntax error: end of file unexpected"⟩
  | ⟨.word w, line⟩ :: _ => ⟨line, "Syntax error: " ++ match bare? w with
    | some s => "\"" ++ s ++ "\" unexpected"
    | none => "word unexpected"⟩
  | ⟨.operator o, line⟩ :: _ => ⟨line, "Syntax error: \"" ++ o ++ "\" unexpected"⟩
  | ⟨.newline, line⟩ :: _ => ⟨line, "Syntax error: newline unexpected"⟩
  | ⟨.broken, line⟩ :: _ => ⟨line, "Syntax error: Unterminated quoted string"⟩
  | ⟨_, line⟩ :: _ => ⟨line, "Syntax error: redirection unexpected"⟩

/-- The tokens behind line ends. -/
def skipNewlines (ts : List Token) : List Token :=
  ts.dropWhile fun t => t.lexeme == .newline

/-- The tokens behind a bare word that has to stand here. -/
def expect (s : String) (ts : List Token) : Except Mistake (List Token) :=
  if front? ts = some s then .ok (ts.drop 1) else .error (unexpected ts)

/-- The words that only end what others began. -/
def closers : List String := ["then", "else", "elif", "fi", "do", "done", "esac", "\x7d"]

/-- An assignment: a name, an equals sign and a word. -/
def assignment? : Word → Option (String × Word)
  | .plain s :: rest =>
    let name := s.toList.takeWhile (· ≠ '=')
    match s.toList.dropWhile (· ≠ '=') with
    | _ :: value =>
      if isName name then
        let value := if value = [] then rest else .plain (String.ofList value) :: rest
        some (String.ofList name, value)
      else none
    | [] => none
  | _ => none

/-- What a redirection operator does, and the descriptor that it means if none is given. -/
def direction? : String → Option (Direction × Nat)
  | "<" => some (.read, 0)
  | ">" => some (.write, 1)
  | ">|" => some (.write, 1)
  | ">>" => some (.append, 1)
  | "<&" => some (.duplicate, 0)
  | ">&" => some (.duplicate, 1)
  | "<>" => some (.read, 0)
  | "<<" => some (.document, 0)
  | _ => none

/-- A redirection at the front of the tokens, if there is one. -/
def redirection? (ts : List Token) : Option (Except Mistake (Redirection × List Token)) :=
  let (n, behind) : Option Nat × List Token := match ts with
    | ⟨.descriptor n, _⟩ :: rest => (some n, rest)
    | ts => (none, ts)
  match behind with
  | ⟨.operator o, _⟩ :: rest =>
    (direction? o).map fun (direction, usual) => match rest with
      | ⟨.word w, _⟩ :: rest => .ok (⟨n.getD usual, direction, w⟩, rest)
      | rest => .error (unexpected rest)
  | _ => none

/-- The redirections at the front of the tokens. -/
def redirections : (fuel : Nat) → List Token → Except Mistake (List Redirection × List Token)
  | 0, ts => .ok ([], ts)
  | fuel + 1, ts =>
    match redirection? ts with
    | none => .ok ([], ts)
    | some r => do
      let (r, ts) ← r
      let (rs, ts) ← redirections fuel ts
      return (r :: rs, ts)

/-- A compound command with the redirections that follow it. -/
def withRedirections (c : Statement) (ts : List Token) :
    Except Mistake (Statement × List Token) := do
  let (rs, ts) ← redirections (ts.length + 1) ts
  return (if rs.isEmpty then c else .redirected c rs, ts)

/-- The words of a list, up to a line end or a semicolon. -/
def words : List Token → List Word × List Token
  | ⟨.word w, _⟩ :: ts => let (ws, ts) := words ts; (w :: ws, ts)
  | ts => ([], ts)

/-- The assignments, words and redirections of a simple command. -/
structure Simple where
  assignments : List (String × Word) := []
  words : List Word := []
  redirections : List Redirection := []

/-- A simple command, as far as it reaches. -/
def simple : (fuel : Nat) → Simple → List Token → Except Mistake (Simple × List Token)
  | 0, s, ts => .ok (s, ts)
  | fuel + 1, s, ts =>
    match redirection? ts with
    | some r => do
      let (r, ts) ← r
      simple fuel { s with redirections := s.redirections ++ [r] } ts
    | none =>
      match ts with
      | ⟨.word w, _⟩ :: rest =>
        match if s.words.isEmpty then assignment? w else none with
        | some a => simple fuel { s with assignments := s.assignments ++ [a] } rest
        | none => simple fuel { s with words := s.words ++ [w] } rest
      | _ => .ok (s, ts)

/-- The words of a pattern, with `|` between them, up to a bracket. -/
def patterns : (fuel : Nat) → List Token → Except Mistake (List Word × List Token)
  | 0, ts => .error (unexpected ts)
  | fuel + 1, ts =>
    match ts with
    | ⟨.word w, _⟩ :: rest =>
      if isOperator "|" rest then do
        let (ws, rest) ← patterns fuel (rest.drop 1)
        return (w :: ws, rest)
      else if isOperator ")" rest then .ok ([w], rest.drop 1)
      else .error (unexpected rest)
    | ts => .error (unexpected ts)

/-- The line of the token at the front. -/
def lineOf : List Token → Nat
  | [] => 1
  | t :: _ => t.line


mutual

/-- A command, simple or compound. -/
def command : (fuel : Nat) → List Token → Except Mistake (Statement × List Token)
  | 0, ts => .error (unexpected ts)
  | fuel + 1, ts => do
    let line := lineOf ts
    if isOperator "(" ts then
      let (body, ts) ← list fuel (ts.drop 1)
      if isOperator ")" ts then withRedirections (.inside body) (ts.drop 1)
      else .error (unexpected ts)
    else match front? ts with
      | some "\x7b" =>
        let (body, ts) ← list fuel (ts.drop 1)
        withRedirections body (← expect "\x7d" ts)
      | some "if" =>
        let (c, ts) ← conditional fuel (ts.drop 1)
        withRedirections c ts
      | some "while" =>
        let (c, ts) ← repetition fuel true (ts.drop 1)
        withRedirections c ts
      | some "until" =>
        let (c, ts) ← repetition fuel false (ts.drop 1)
        withRedirections c ts
      | some "for" =>
        let (c, ts) ← iteration fuel (ts.drop 1)
        withRedirections c ts
      | some "case" =>
        match ts.drop 1 with
        | ⟨.word subject, _⟩ :: ts =>
          let ts ← expect "in" (skipNewlines ts)
          let (arms, ts) ← arms fuel ts
          withRedirections (.choice subject arms) ts
        | ts => .error (unexpected ts)
      | front =>
        if front.any closers.contains then .error (unexpected ts)
        else match front, isOperator "(" (ts.drop 1) && isOperator ")" (ts.drop 2) with
          | some name, true => do
            let (body, ts) ← command fuel (skipNewlines (ts.drop 3))
            return (.define name body, ts)
          | _, _ =>
            let (s, rest) ← simple (ts.length + 1) {} ts
            if s.assignments.isEmpty && s.words.isEmpty && s.redirections.isEmpty then
              .error (unexpected ts)
            else return (.simple line s.assignments s.words s.redirections, rest)

/-- The rest of a conditional behind `if` or `elif`. -/
def conditional : (fuel : Nat) → List Token → Except Mistake (Statement × List Token)
  | 0, ts => .error (unexpected ts)
  | fuel + 1, ts => do
    let (condition, ts) ← list fuel ts
    let ts ← expect "then" ts
    let (yes, ts) ← list fuel ts
    match front? ts with
    | some "elif" =>
      let (no, ts) ← conditional fuel (ts.drop 1)
      return (.branch condition yes no, ts)
    | some "else" =>
      let (no, ts) ← list fuel (ts.drop 1)
      return (.branch condition yes no, ← expect "fi" ts)
    | _ => return (.branch condition yes (.sequence []), ← expect "fi" ts)

/-- The rest of a loop behind `while` or `until`. -/
def repetition : (fuel : Nat) → Bool → List Token → Except Mistake (Statement × List Token)
  | 0, _, ts => .error (unexpected ts)
  | fuel + 1, wanted, ts => do
    let (condition, ts) ← list fuel ts
    let ts ← expect "do" ts
    let (body, ts) ← list fuel ts
    return (.loop wanted condition body, ← expect "done" ts)

/-- The rest of a loop behind `for`. -/
def iteration : (fuel : Nat) → List Token → Except Mistake (Statement × List Token)
  | 0, ts => .error (unexpected ts)
  | fuel + 1, ts => do
    match front? ts with
    | none => .error (unexpected ts)
    | some name =>
      let ts := skipNewlines (ts.drop 1)
      let (items, ts) : Option (List Word) × List Token :=
        if front? ts = some "in" then
          let (ws, ts) := words (ts.drop 1)
          (some ws, ts)
        else (none, ts)
      let ts := if isOperator ";" ts then ts.drop 1 else ts
      let ts ← expect "do" (skipNewlines ts)
      let (body, ts) ← list fuel ts
      return (.each name items body, ← expect "done" ts)

/-- The arms of a choice, up to its end. -/
def arms : (fuel : Nat) → List Token → Except Mistake (List (List Word × Statement) × List Token)
  | 0, ts => .error (unexpected ts)
  | fuel + 1, ts => do
    let ts := skipNewlines ts
    if front? ts = some "esac" then return ([], ts.drop 1)
    let ts := if isOperator "(" ts then ts.drop 1 else ts
    let (ps, ts) ← patterns (ts.length + 1) ts
    let (body, ts) ← list fuel ts
    if isOperator ";;" ts then
      let (more, ts) ← arms fuel (ts.drop 1)
      return ((ps, body) :: more, ts)
    else return ([(ps, body)], ← expect "esac" (skipNewlines ts))

/-- Commands with `|` between them. -/
def pipeline : (fuel : Nat) → List Token → Except Mistake (List Statement × List Token)
  | 0, ts => .error (unexpected ts)
  | fuel + 1, ts => do
    let (c, ts) ← command fuel ts
    if isOperator "|" ts then
      let (cs, ts) ← pipeline fuel (skipNewlines (ts.drop 1))
      return (c :: cs, ts)
    else return ([c], ts)

/-- Pipelines with `&&` and `||` between them, behind one that has been read. -/
def chain : (fuel : Nat) → Option (Bool × Statement) → List Token →
    Except Mistake (Statement × List Token)
  | 0, _, ts => .error (unexpected ts)
  | fuel + 1, before, ts => do
    let isNegated := front? ts = some "!"
    let (stages, ts) ← pipeline fuel (if isNegated then ts.drop 1 else ts)
    let c := match stages with
      | [c] => c
      | cs => .pipeline cs
    let c := if isNegated then .negation c else c
    let c := match before with
      | none => c
      | some (true, b) => .both b c
      | some (false, b) => .either b c
    if isOperator "&&" ts then chain fuel (some (true, c)) (skipNewlines (ts.drop 1))
    else if isOperator "||" ts then chain fuel (some (false, c)) (skipNewlines (ts.drop 1))
    else return (c, ts)

/-- Statements, up to a word or operator that closes what is around them. -/
def list : (fuel : Nat) → List Token → Except Mistake (Statement × List Token)
  | 0, ts => .error (unexpected ts)
  | fuel + 1, ts => do
    let ts := skipNewlines ts
    if ts.isEmpty || isOperator ")" ts || isOperator ";;" ts ||
        (front? ts).any closers.contains then
      return (.sequence [], ts)
    let (c, ts) ← chain fuel none ts
    let (c, ts, goesOn) : Statement × List Token × Bool :=
      if isOperator "&" ts then (.background c, ts.drop 1, true)
      else if isOperator ";" ts then (c, ts.drop 1, true)
      else (c, ts, (ts.head?.map (·.lexeme)) == some .newline)
    if goesOn then
      let (rest, ts) ← list fuel ts
      match rest with
      | .sequence cs => return (.sequence (c :: cs), ts)
      | rest => return (.sequence [c, rest], ts)
    else return (.sequence [c], ts)

end

/-- The statements of one line, which may reach over line ends inside them. -/
def line : (fuel : Nat) → List Token → Except Mistake (List Statement × List Token)
  | 0, ts => .error (unexpected ts)
  | fuel + 1, ts => do
    let (c, ts) ← chain fuel none ts
    let (c, ts, isMore) : Statement × List Token × Bool :=
      if isOperator "&" ts then (.background c, ts.drop 1, true)
      else if isOperator ";" ts then (c, ts.drop 1, true)
      else (c, ts, false)
    match ts with
    | [] => return ([c], [])
    | ⟨.newline, _⟩ :: rest => return ([c], rest)
    | ts =>
      if isMore then
        let (cs, ts) ← line fuel ts
        return (c :: cs, ts)
      else .error (unexpected ts)

/-- All lines. -/
def lines : (fuel : Nat) → List Token → Script
  | 0, _ => ⟨[], none⟩
  | fuel + 1, ts =>
    match skipNewlines ts with
    | [] => ⟨[], none⟩
    | ts =>
      match line (ts.length * 4 + 8) ts with
      | .error m => ⟨[], some m⟩
      | .ok (cs, ts) =>
        let rest := lines fuel ts
        ⟨cs ++ rest.statements, rest.mistake⟩

/-- The statements of a text. -/
def parse (text : List Char) : Script :=
  let ts := Token.scan text
  lines (ts.length + 1) ts

end Script

end BuildRunner.Shell
