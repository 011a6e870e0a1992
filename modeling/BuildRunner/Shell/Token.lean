import BuildRunner.Shell.Bytes
import BuildRunner.Shell.Statement
import BuildRunner.Text.Split

/-!
The text of a script cut into words, operators and line ends. The texts that `<<` announces follow
the line they are announced in and are put in the place of the word behind it.
-/

namespace BuildRunner.Shell

/-- What stands in the text of a script. -/
inductive Lexeme where
  | word (w : Word)
  | operator (s : String)
  | newline
  /-- The number in front of a redirection. -/
  | descriptor (n : Nat)
  /-- A text announced by `<<`, by its number. -/
  | document (index : Nat)
  /-- Quotes or brackets that are not closed. -/
  | broken
  deriving DecidableEq, Repr, Inhabited

/-- A lexeme and the line it stands in. -/
structure Token where
  lexeme : Lexeme
  line : Nat
  deriving Repr, Inhabited

namespace Token

/-! ### Brackets and quotes -/

/-- What closes brackets or quotes that are opened inside others: `top` closes the innermost ones
around. -/
def opened? (top : Char) (c d : Char) : Option (Char × Nat) :=
  if top = '\'' then none
  else if top = '\x60' then none
  else if c = '$' && d = '(' then some (')', 2)
  else if c = '$' && d = '{' then some ('}', 2)
  else if c = '\x60' then some ('\x60', 1)
  else if top = '"' then none
  else if c = '"' then some ('"', 1)
  else if c = '\'' then some ('\'', 1)
  else if c = '(' && top = ')' then some (')', 1)
  else none

/-- What stands on the stack for a `case`, in which brackets need not be opened. -/
def choiceMark : Char := Char.ofNat 0

/-- Whether a command can begin behind a text, which is given in reverse. -/
def mayBegin (done : List Char) : Bool :=
  let done := done.dropWhile fun c => c = ' ' || c = '\t'
  match done with
  | [] => true
  | c :: _ =>
    ";&|\n(\x7b".toList.contains c ||
      ["do", "then", "else", "if", "while", "until", "elif"].contains
        (String.ofList (done.takeWhile isNameRest).reverse)

/-- Whether a text begins with a word. -/
def beginsWith (word : String) (cs : List Char) : Bool :=
  word.toList.isPrefixOf cs && !(cs.drop word.length).head?.any isNameRest

/-- The stack behind a `case` or an `esac` in a script. -/
def stackBehind (stack done cs : List Char) : List Char :=
  match stack with
  | top :: outer =>
    if (top = ')' || top = choiceMark) && mayBegin done && beginsWith "case" cs then
      choiceMark :: stack
    else if top = choiceMark && mayBegin done && beginsWith "esac" cs then outer
    else stack
  | [] => []

/-- The text up to what closes all of `stack`, without that, and the text behind it. -/
def enclosed (stack done : List Char) : List Char → Option (List Char × List Char)
  | [] => none
  | c :: cs =>
    let stack := stackBehind stack done (c :: cs)
    match stack with
    | [] => none
    | top :: outer =>
      if c = '\\' && top ≠ '\'' then
        match cs with
        | [] => none
        | d :: cs => enclosed stack (d :: c :: done) cs
      else if c = top then
        if outer = [] then some (done.reverse, cs) else enclosed outer (c :: done) cs
      else
        match cs with
        | [] => none
        | d :: rest =>
          match opened? top c d with
          | some (closer, 2) => enclosed (closer :: stack) (d :: c :: done) rest
          | some (closer, _) => enclosed (closer :: stack) (c :: done) (d :: rest)
          | none => enclosed stack (c :: done) (d :: rest)
termination_by cs => cs.length

/-- The script between backquotes: a backslash in front of a dollar sign, a backquote or a
backslash, and in quotes of a quote, is taken away. -/
def unescape (inQuotes : Bool) : List Char → List Char
  | [] => []
  | [c] => [c]
  | c :: d :: cs =>
    if c = '\\' && (d = '$' || d = '\x60' || d = '\\' || (inQuotes && d = '"')) then
      d :: unescape inQuotes cs
    else c :: unescape inQuotes (d :: cs)

/-- The parameters that are one character. -/
def isSpecial (c : Char) : Bool := c.isDigit || "@*#?-$!".toList.contains c

/-- What follows a dollar sign, and the text behind it. -/
def dollar (inQuotes : Bool) (cs : List Char) : Option (Piece × List Char) :=
  match cs with
  | '(' :: '(' :: inner => do
    match enclosed [')', ')'] [] inner with
    | some (text, rest) =>
      if text.getLast? = some ')' then
        return (.arithmetic (String.ofList text.dropLast) inQuotes, rest)
      else
        let (text, rest) ← enclosed [')'] [] ('(' :: inner)
        return (.output (String.ofList text) inQuotes, rest)
    | none => none
  | '(' :: inner => do
    let (text, rest) ← enclosed [')'] [] inner
    return (.output (String.ofList text) inQuotes, rest)
  | '{' :: inner => do
    let (text, rest) ← enclosed ['}'] [] inner
    return (.parameter (String.ofList text) inQuotes, rest)
  | c :: rest =>
    if isNameStart c then
      some (.parameter (String.ofList (c :: rest.takeWhile isNameRest)) inQuotes,
        rest.dropWhile isNameRest)
    else if isSpecial c then some (.parameter c.toString inQuotes, rest)
    else some (if inQuotes then .quoted "$" else .plain "$", cs)
  | [] => some (if inQuotes then .quoted "$" else .plain "$", [])

/-! ### Words -/

/-- A piece in front of others; neighbours of one kind are joined. -/
def push (p : Piece) (w : Word) : Word :=
  match p, w with
  | .plain a, .plain b :: rest => .plain (a ++ b) :: rest
  | .quoted a, .quoted b :: rest => .quoted (a ++ b) :: rest
  | p, w => p :: w

/-- The pieces of a text as in double quotes, up to the quote that closes it if there is to be one,
and the text behind that. -/
def inQuotes (isClosed : Bool) : (fuel : Nat) → List Char → Option (Word × List Char)
  | 0, _ => none
  | fuel + 1, cs =>
    match cs with
    | [] => if isClosed then none else some ([], [])
    | '"' :: rest =>
      if isClosed then some ([], rest) else (inQuotes isClosed fuel rest).map fun (w, r) =>
        (push (.quoted "\"") w, r)
    | '\\' :: '\n' :: rest => inQuotes isClosed fuel rest
    | '\\' :: c :: rest =>
      let text := if c = '$' || c = '\x60' || c = '\\' || (isClosed && c = '"') then c.toString
        else String.ofList ['\\', c]
      (inQuotes isClosed fuel rest).map fun (w, r) => (push (.quoted text) w, r)
    | '$' :: rest => do
      let (p, rest) ← dollar true rest
      let (w, r) ← inQuotes isClosed fuel rest
      return (push p w, r)
    | '\x60' :: rest => do
      let (text, rest) ← enclosed ['\x60'] [] rest
      let (w, r) ← inQuotes isClosed fuel rest
      return (.output (String.ofList (unescape true text)) true :: w, r)
    | c :: rest => (inQuotes isClosed fuel rest).map fun (w, r) =>
      (push (.quoted c.toString) w, r)

/-- Whether a character ends a word. -/
def endsWord (c : Char) : Bool := " \t\n;&|<>()".toList.contains c

/-- The pieces of a word and the text behind it. `isAll` takes the whole text as one word. -/
def word (isAll : Bool) : (fuel : Nat) → List Char → Option (Word × List Char)
  | 0, _ => none
  | fuel + 1, cs =>
    match cs with
    | [] => some ([], [])
    | '\\' :: '\n' :: rest => word isAll fuel rest
    | '\\' :: c :: rest =>
      (word isAll fuel rest).map fun (w, r) => (push (.quoted c.toString) w, r)
    | '\'' :: rest => do
      let (text, rest) ← enclosed ['\''] [] rest
      let (w, r) ← word isAll fuel rest
      return (push (.quoted (String.ofList text)) w, r)
    | '"' :: rest => do
      let (ps, rest) ← inQuotes true (rest.length + 1) rest
      let (w, r) ← word isAll fuel rest
      return (push (.quoted "") (ps.foldr push w), r)
    | '$' :: rest => do
      let (p, rest) ← dollar false rest
      let (w, r) ← word isAll fuel rest
      return (push p w, r)
    | '\x60' :: rest => do
      let (text, rest) ← enclosed ['\x60'] [] rest
      let (w, r) ← word isAll fuel rest
      return (.output (String.ofList (unescape false text)) false :: w, r)
    | c :: rest =>
      if endsWord c && !isAll then some ([], cs)
      else (word isAll fuel rest).map fun (w, r) => (push (.plain c.toString) w, r)

/-- A text taken as one word. -/
def wordOf (cs : List Char) : Word := ((word true (cs.length + 1) cs).map (·.1)).getD []

/-- A text taken as in double quotes. -/
def quotedWordOf (cs : List Char) : Word :=
  ((inQuotes false (cs.length + 1) cs).map (·.1)).getD []

/-! ### Texts announced in a line -/

/-- A text announced by `<<`. -/
structure Announced where
  index : Nat
  delimiter : String
  /-- Whether nothing in it is replaced. -/
  isVerbatim : Bool
  /-- Whether tabs at the front of its lines are dropped. -/
  isIndented : Bool

/-- The lines up to one that is the delimiter, and the text behind that one. -/
def bodyOf (a : Announced) : (fuel : Nat) → List Char → List Char × List Char
  | 0, cs => ([], cs)
  | _, [] => ([], [])
  | fuel + 1, cs =>
    let line := cs.takeWhile (· ≠ '\n')
    let rest := (cs.dropWhile (· ≠ '\n')).drop 1
    let line := if a.isIndented then line.dropWhile (· = '\t') else line
    if line = a.delimiter.toList then ([], rest)
    else
      let (body, r) := bodyOf a fuel rest
      (line ++ '\n' :: body, r)

/-- The announced texts that follow a line, by their numbers, and the text behind them. -/
def bodies : List Announced → List Char → List (Nat × Word) × List Char
  | [], cs => ([], cs)
  | a :: more, cs =>
    let (body, cs) := bodyOf a (cs.length + 1) cs
    let w := if a.isVerbatim then [Piece.quoted (String.ofList body)] else quotedWordOf body
    let (ws, cs) := bodies more cs
    ((a.index, w) :: ws, cs)

/-- The text of a word as a delimiter, and whether any of it was quoted. -/
def delimiterOf (w : Word) : String × Bool :=
  (String.join (w.map fun
    | .plain s => s
    | .quoted s => s
    | .parameter s _ => "$" ++ s
    | .output s _ => s
    | .arithmetic s _ => s),
   w.any fun
    | .quoted _ => true
    | _ => false)

/-! ### Scripts -/

/-- The operators, longer ones first. -/
def operators : List String :=
  ["<<-", "&&", "||", ";;", "<<", ">>", "<&", ">&", "<>", ">|", ";", "&", "|", "<", ">", "(", ")"]

/-- The operator at the front of a text, and the text behind it. -/
def operator? (cs : List Char) : Option (String × List Char) :=
  (operators.find? fun o => o.toList.isPrefixOf cs).map fun o => (o, cs.drop o.length)

/-- The number of line ends between a text and a later part of it. -/
def linesBetween (cs rest : List Char) : Nat :=
  ((cs.take (cs.length - rest.length)).filter (· = '\n')).length

/-- The tokens of a text, and the announced texts by their numbers. -/
def scanFrom (line count : Nat) (announced : List Announced) :
    (fuel : Nat) → List Char → List Token × List (Nat × Word)
  | 0, _ => ([⟨.broken, line⟩], [])
  | fuel + 1, cs =>
    match cs with
    | [] => ([], [])
    | ' ' :: rest => scanFrom line count announced fuel rest
    | '\t' :: rest => scanFrom line count announced fuel rest
    | '\\' :: '\n' :: rest => scanFrom (line + 1) count announced fuel rest
    | '#' :: rest => scanFrom line count announced fuel (rest.dropWhile (· ≠ '\n'))
    | '\n' :: rest =>
      let (ws, behind) := bodies announced.reverse rest
      let (ts, more) := scanFrom (line + 1 + linesBetween rest behind) count [] fuel behind
      (⟨.newline, line⟩ :: ts, ws ++ more)
    | _ =>
      let digits := cs.takeWhile Char.isDigit
      let behind := cs.drop digits.length
      if !digits.isEmpty && (behind.head? == some '<' || behind.head? == some '>') then
        let (ts, more) := scanFrom line count announced fuel behind
        (⟨.descriptor ((natural? digits).getD 0), line⟩ :: ts, more)
      else match operator? cs with
        | some (o, rest) =>
          if o = "<<" || o = "<<-" then
            let rest := rest.dropWhile fun c => c = ' ' || c = '\t'
            match word false (rest.length + 1) rest with
            | none => ([⟨.broken, line⟩], [])
            | some (w, rest) =>
              let (delimiter, isVerbatim) := delimiterOf w
              let a : Announced := ⟨count, delimiter, isVerbatim, o = "<<-"⟩
              let (ts, more) := scanFrom line (count + 1) (a :: announced) fuel rest
              (⟨.operator "<<", line⟩ :: ⟨.document count, line⟩ :: ts, more)
          else
            let (ts, more) := scanFrom line count announced fuel rest
            (⟨.operator o, line⟩ :: ts, more)
        | none =>
          match word false (cs.length + 1) cs with
          | none => ([⟨.broken, line⟩], [])
          | some (w, rest) =>
            let (ts, more) :=
              scanFrom (line + linesBetween cs rest) count announced fuel rest
            (⟨.word w, line⟩ :: ts, more)

/-- The tokens of a script. -/
def scan (script : List Char) : List Token :=
  let (ts, documents) := scanFrom 1 0 [] (script.length + 1) script
  ts.map fun t => match t.lexeme with
    | .document n => { t with lexeme := .word ((documents.lookup n).getD []) }
    | _ => t

end Token

end BuildRunner.Shell
