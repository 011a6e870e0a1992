import BuildRunner.Shell.Bytes

/-!
Arithmetic expressions of scripts, on integers of 64 bits: reading them, and their values for given
variables. An assignment is part of an expression and changes the variables.
-/

namespace BuildRunner.Shell

/-- An expression. -/
inductive Expr where
  | number (n : Int)
  | named (name : String)
  | unary (op : String) (a : Expr)
  | binary (op : String) (a b : Expr)
  | conditional (c a b : Expr)
  | assign (name op : String) (a : Expr)
  deriving Inhabited, Repr

namespace Expr

/-! ### Reading -/

/-- A token of an expression. -/
inductive Atom where
  | number (n : Int)
  | name (s : String)
  | operator (s : String)
  deriving DecidableEq, Repr

/-- The operators, longer ones first. -/
def operators : List String :=
  ["<<=", ">>=", "<<", ">>", "<=", ">=", "==", "!=", "&&", "||", "+=", "-=", "*=", "/=", "%=",
    "&=", "|=", "^=", "+", "-", "*", "/", "%", "<", ">", "=", "!", "~", "&", "|", "^", "?", ":",
    "(", ")"]

/-- The value of a digit of any base up to sixteen. -/
def digit? (c : Char) : Option Nat :=
  if c.isDigit then some (c.toNat - '0'.toNat)
  else if 'a' ≤ c && c ≤ 'f' then some (c.toNat - 'a'.toNat + 10)
  else if 'A' ≤ c && c ≤ 'F' then some (c.toNat - 'A'.toNat + 10)
  else none

/-- A number in some base. -/
def inBase? (base : Nat) (cs : List Char) : Option Nat :=
  if cs.isEmpty then none
  else cs.foldlM (fun n c => do
    let d ← digit? c
    if d < base then some (n * base + d) else none) 0

/-- A number as a program writes it: hexadecimal behind `0x`, octal behind `0`. -/
def literal? (cs : List Char) : Option Nat :=
  match cs with
  | '0' :: 'x' :: rest => inBase? 16 rest
  | '0' :: 'X' :: rest => inBase? 16 rest
  | '0' :: rest => inBase? 8 ('0' :: rest)
  | cs => inBase? 10 cs

/-- The tokens of a text. -/
def atoms : (fuel : Nat) → List Char → Option (List Atom)
  | 0, _ => none
  | _, [] => some []
  | fuel + 1, c :: cs =>
    if c = ' ' || c = '\t' || c = '\n' then atoms fuel cs
    else if c.isDigit then do
      let text := (c :: cs).takeWhile Char.isAlphanum
      let n ← literal? text
      return .number n :: (← atoms fuel ((c :: cs).drop text.length))
    else if isNameStart c then do
      let text := (c :: cs).takeWhile isNameRest
      return .name (String.ofList text) :: (← atoms fuel ((c :: cs).drop text.length))
    else do
      let o ← operators.find? fun o => o.toList.isPrefixOf (c :: cs)
      return .operator o :: (← atoms fuel ((c :: cs).drop o.length))

/-- How tightly a binary operator binds. -/
def strength? : String → Option Nat
  | "||" => some 1
  | "&&" => some 2
  | "|" => some 3
  | "^" => some 4
  | "&" => some 5
  | "==" => some 6
  | "!=" => some 6
  | "<" => some 7
  | "<=" => some 7
  | ">" => some 7
  | ">=" => some 7
  | "<<" => some 8
  | ">>" => some 8
  | "+" => some 9
  | "-" => some 9
  | "*" => some 10
  | "/" => some 10
  | "%" => some 10
  | _ => none

/-- The operator that an assignment performs on the old value; it is empty for a plain one. -/
def assignment? (o : String) : Option String :=
  if o = "=" then some ""
  else if ["+=", "-=", "*=", "/=", "%=", "&=", "|=", "^=", "<<=", ">>="].contains o then
    some (String.ofList o.toList.dropLast)
  else none

mutual

/-- An operand, behind the operators that apply to it alone. -/
def operand : (fuel : Nat) → List Atom → Option (Expr × List Atom)
  | 0, _ => none
  | fuel + 1, ts =>
    match ts with
    | .number n :: ts => some (.number n, ts)
    | .name s :: ts => some (.named s, ts)
    | .operator "(" :: ts => do
      match ← full fuel ts with
      | (e, .operator ")" :: ts) => some (e, ts)
      | _ => none
    | .operator o :: ts =>
      if o = "-" || o = "+" || o = "!" || o = "~" then do
        let (e, ts) ← operand fuel ts
        return (.unary o e, ts)
      else none
    | [] => none

/-- An expression extended by operators that bind at least as tightly as `least`. -/
def extend : (fuel : Nat) → (least : Nat) → Expr → List Atom → Option (Expr × List Atom)
  | 0, _, _, _ => none
  | fuel + 1, least, a, ts =>
    match ts with
    | .operator o :: rest =>
      match strength? o with
      | none => some (a, ts)
      | some s =>
        if s < least then some (a, ts)
        else do
          let (b, rest) ← operand fuel rest
          let (b, rest) ← extend fuel (s + 1) b rest
          extend fuel least (.binary o a b) rest
    | _ => some (a, ts)

/-- A whole expression. -/
def full : (fuel : Nat) → List Atom → Option (Expr × List Atom)
  | 0, _ => none
  | fuel + 1, ts => do
    let assigned : Option (String × String) := match ts with
      | .name s :: .operator o :: _ => (assignment? o).map fun p => (s, p)
      | _ => none
    match assigned with
    | some (name, o) =>
      let (e, ts) ← full fuel (ts.drop 2)
      return (.assign name o e, ts)
    | none =>
      let (a, ts) ← operand fuel ts
      let (e, ts) ← extend fuel 1 a ts
      match ts with
      | .operator "?" :: ts =>
        let (x, ts) ← full fuel ts
        match ts with
        | .operator ":" :: ts =>
          let (y, ts) ← full fuel ts
          return (.conditional e x y, ts)
        | _ => none
      | ts => return (e, ts)

end

/-- The expression that a text spells; a blank one is zero. -/
def parse? (cs : List Char) : Option Expr := do
  let ts ← atoms (cs.length + 1) cs
  if ts.isEmpty then return .number 0
  match ← full (4 * ts.length + 4) ts with
  | (e, []) => return e
  | _ => none

/-! ### Values -/

/-- An integer cut down to 64 bits. -/
def wrap (n : Int) : Int := n.bmod (Nat.pow 2 64)

/-- The bits of an integer as a natural number. -/
def bits (n : Int) : Nat := (n.emod (Int.pow 2 64)).toNat

/-- The truth of a condition as a number. -/
def truth (b : Bool) : Int := if b then 1 else 0

/-- The value of a binary operator; none for a division by zero. -/
def combine? (o : String) (a b : Int) : Option Int :=
  match o with
  | "+" => some (wrap (a + b))
  | "-" => some (wrap (a - b))
  | "*" => some (wrap (a * b))
  | "/" => if b = 0 then none else some (wrap (a.tdiv b))
  | "%" => if b = 0 then none else some (wrap (a.tmod b))
  | "<" => some (truth (a < b))
  | "<=" => some (truth (a ≤ b))
  | ">" => some (truth (a > b))
  | ">=" => some (truth (a ≥ b))
  | "==" => some (truth (a = b))
  | "!=" => some (truth (a ≠ b))
  | "&&" => some (truth (a ≠ 0 && b ≠ 0))
  | "||" => some (truth (a ≠ 0 || b ≠ 0))
  | "&" => some (wrap (bits a &&& bits b : Nat))
  | "|" => some (wrap (bits a ||| bits b : Nat))
  | "^" => some (wrap (bits a ^^^ bits b : Nat))
  | "<<" => some (wrap (a * Int.pow 2 (bits b % 64)))
  | ">>" => some (a / Int.pow 2 (bits b % 64))
  | _ => some b

/-- The value of a variable, from its text. -/
def variableValue (text : String) : Int :=
  let cs := text.toList
  match cs with
  | '-' :: rest => -(((literal? rest).getD 0 : Nat) : Int)
  | cs => ((literal? cs).getD 0 : Nat)

/-- The value of an expression for some variables, and the assignments made, last one first; none
for a division by zero. -/
def value? (look : String → String) (made : List (String × Int)) :
    Expr → Option (Int × List (String × Int))
  | number n => some (wrap n, made)
  | named s => some ((made.lookup s).getD (variableValue (look s)), made)
  | unary o a => do
    let (n, made) ← value? look made a
    let m : Int := match o with
      | "-" => wrap (-n)
      | "!" => truth (n = 0)
      | "~" => -n - 1
      | _ => n
    return (m, made)
  | binary o a b => do
    let (n, made) ← value? look made a
    if o = "&&" && n = 0 then return (0, made)
    else if o = "||" && n ≠ 0 then return (1, made)
    else
      let (m, made) ← value? look made b
      return (← combine? o n m, made)
  | conditional c a b => do
    let (n, made) ← value? look made c
    if n ≠ 0 then value? look made a else value? look made b
  | assign s o a => do
    let old := (made.lookup s).getD (variableValue (look s))
    let (n, made) ← value? look made a
    let m ← if o = "" then some n else combine? o old n
    return (m, (s, m) :: made)

end Expr

end BuildRunner.Shell
