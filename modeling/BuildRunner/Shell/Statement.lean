/-!
The commands of a script, and the words they are made of.
-/

namespace BuildRunner.Shell

/-- A part of a word. What is to be replaced keeps its spelling; what stands in quotes is not split
into fields and matches no file names. -/
inductive Piece where
  /-- Text outside quotes. -/
  | plain (text : String)
  /-- Text in quotes, or behind a backslash. -/
  | quoted (text : String)
  /-- The value of a parameter: its name, or what stands between the braces. -/
  | parameter (expr : String) (inQuotes : Bool)
  /-- The output of a script. -/
  | output (script : String) (inQuotes : Bool)
  /-- The value of an arithmetic expression. -/
  | arithmetic (expr : String) (inQuotes : Bool)
  deriving DecidableEq, Repr, Inhabited

/-- A word. -/
abbrev Word := List Piece

/-- What a redirection does with its target. -/
inductive Direction where
  | read
  | write
  | append
  | duplicate
  /-- The target is the text to be read. -/
  | document
  deriving DecidableEq, Repr, Inhabited

/-- A descriptor given another meaning. -/
structure Redirection where
  descriptor : Nat
  direction : Direction
  target : Word
  deriving DecidableEq, Repr, Inhabited

/-- A command, simple or compound. -/
inductive Statement where
  | simple (line : Nat) (assignments : List (String × Word)) (words : List Word)
      (redirections : List Redirection)
  | pipeline (stages : List Statement)
  | negation (c : Statement)
  /-- The second one only if the first one goes well. -/
  | both (a b : Statement)
  /-- The second one only if the first one goes wrong. -/
  | either (a b : Statement)
  | sequence (cs : List Statement)
  /-- Not waited for. -/
  | background (c : Statement)
  /-- With descriptors of its own. -/
  | redirected (c : Statement) (redirections : List Redirection)
  /-- In a process of its own. -/
  | inside (c : Statement)
  | branch (condition yes no : Statement)
  /-- Repeated as long as the condition goes well, or as long as it goes wrong. -/
  | loop (wanted : Bool) (condition body : Statement)
  /-- Once for each field, of the positional parameters if no words are given. -/
  | each (name : String) (items : Option (List Word)) (body : Statement)
  | choice (subject : Word) (arms : List (List Word × Statement))
  | define (name : String) (body : Statement)
  deriving Inhabited

end BuildRunner.Shell
