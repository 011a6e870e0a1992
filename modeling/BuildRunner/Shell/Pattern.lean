/-!
Patterns of names: `*` for any text, `?` for one character, brackets for one out of a set, and
anything else, and all that is quoted, for itself.
-/

namespace BuildRunner.Shell

/-- A character of a field, and whether it was quoted. -/
structure Glyph where
  char : Char
  isQuoted : Bool
  deriving DecidableEq, Repr, Inhabited

/-- One place of a pattern. -/
inductive Mark where
  | any
  | one
  | among (isNegated : Bool) (ranges : List (Char × Char))
  | exact (c : Char)
  deriving DecidableEq, Repr, Inhabited

namespace Pattern

/-- The classes of characters that have names. -/
def classOf (name : String) : List (Char × Char) :=
  match name with
  | "alpha" => [('a', 'z'), ('A', 'Z')]
  | "digit" => [('0', '9')]
  | "alnum" => [('a', 'z'), ('A', 'Z'), ('0', '9')]
  | "upper" => [('A', 'Z')]
  | "lower" => [('a', 'z')]
  | "space" => [('\t', '\r'), (' ', ' ')]
  | "blank" => [('\t', '\t'), (' ', ' ')]
  | "punct" => [('!', '/'), (':', '@'), ('[', '\x60'), ('\x7b', '~')]
  | "xdigit" => [('0', '9'), ('a', 'f'), ('A', 'F')]
  | _ => []

/-- The ranges of a set up to its closing bracket, and what follows. -/
def ranges : (fuel : Nat) → (isFirst : Bool) → List Glyph →
    Option (List (Char × Char) × List Glyph)
  | 0, _, _ => none
  | _, _, [] => none
  | fuel + 1, isFirst, g :: gs =>
    if g.char = ']' && !g.isQuoted && !isFirst then some ([], gs)
    else
      let chars := gs.map (·.char)
      if g.char = '[' && !g.isQuoted && chars.head? = some ':' then
        let name := (chars.drop 1).takeWhile Char.isAlpha
        if (chars.drop (1 + name.length)).take 2 = [':', ']'] then do
          let (rs, rest) ← ranges fuel false (gs.drop (3 + name.length))
          return (classOf (String.ofList name) ++ rs, rest)
        else none
      else match gs with
        | h :: k :: rest =>
          if h.char = '-' && !h.isQuoted && (k.char ≠ ']' || k.isQuoted) then do
            let (rs, rest) ← ranges fuel false rest
            return ((g.char, k.char) :: rs, rest)
          else do
            let (rs, rest) ← ranges fuel false gs
            return ((g.char, g.char) :: rs, rest)
        | gs => do
          let (rs, rest) ← ranges fuel false gs
          return ((g.char, g.char) :: rs, rest)

/-- The pattern that a field spells. -/
def ofField : (fuel : Nat) → List Glyph → List Mark
  | 0, _ => []
  | _, [] => []
  | fuel + 1, g :: gs =>
    if g.isQuoted then .exact g.char :: ofField fuel gs
    else match g.char with
      | '*' => .any :: ofField fuel gs
      | '?' => .one :: ofField fuel gs
      | '[' =>
        let isNegated := match gs with
          | h :: _ => !h.isQuoted && (h.char = '!' || h.char = '^')
          | [] => false
        match ranges (gs.length + 1) true (if isNegated then gs.drop 1 else gs) with
        | some (rs, rest) => .among isNegated rs :: ofField fuel rest
        | none => .exact '[' :: ofField fuel gs
      | c => .exact c :: ofField fuel gs

/-- Whether a character fits a place. -/
def fits (m : Mark) (c : Char) : Bool :=
  match m with
  | .any => true
  | .one => true
  | .among isNegated rs => rs.any (fun r => r.1 ≤ c && c ≤ r.2) != isNegated
  | .exact d => c == d

/-- Whether a pattern stands for all of a text. -/
def accepts : List Mark → List Char → Bool
  | [], cs => cs.isEmpty
  | .any :: ms, [] => accepts ms []
  | _ :: _, [] => false
  | .any :: ms, c :: cs => accepts ms (c :: cs) || accepts (.any :: ms) cs
  | m :: ms, c :: cs => fits m c && accepts ms cs
termination_by ms cs => ms.length + cs.length

/-- Whether anything in a field stands for more than itself. -/
def isOpen (gs : List Glyph) : Bool :=
  (ofField (gs.length + 1) gs).any fun
    | .exact _ => false
    | _ => true

/-- The lengths of the parts at the front of a text that a pattern stands for, shortest first. -/
def fronts (ms : List Mark) (cs : List Char) : List Nat :=
  (List.range (cs.length + 1)).filter fun n => accepts ms (cs.take n)

/-- The text without the shortest or longest part at its front that a pattern stands for. -/
def dropFront (ms : List Mark) (isLongest : Bool) (cs : List Char) : List Char :=
  let ns := fronts ms cs
  match if isLongest then ns.getLast? else ns.head? with
  | some n => cs.drop n
  | none => cs

/-- The text without the shortest or longest part at its end that a pattern stands for. -/
def dropBack (ms : List Mark) (isLongest : Bool) (cs : List Char) : List Char :=
  let ns := (List.range (cs.length + 1)).filter fun n => accepts ms (cs.drop n)
  match if isLongest then ns.head? else ns.getLast? with
  | some n => cs.take n
  | none => cs

end Pattern

end BuildRunner.Shell
