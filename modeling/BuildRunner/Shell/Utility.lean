import BuildRunner.Shell.Condition
import BuildRunner.Shell.Expansion
import BuildRunner.Shell.Format

/-!
The programs that scripts find on every system, as far as they do not start others.
-/

namespace BuildRunner.Shell.Utility

open Act

/-- A complaint of a program, which fails. -/
def refuse (name text : String) : Act Unit := do
  write 2 (name ++ ": " ++ text ++ "\n")
  setStatus 1

/-- A failed read in the words of a program. -/
def reason : FileError → String
  | .notFound => "No such file or directory"
  | .notDirectory => "Not a directory"
  | .isDirectory => "Is a directory"
  | .notUtf8 => "Invalid argument"
  | .nameWithNul => "Invalid argument"

/-! ### Input -/

/-- The pieces of the standard input passed on, as they come. -/
def pass : (fuel : Nat) → Act Unit
  | 0 => return
  | fuel + 1 => do
    match ← readPiece with
    | none => return
    | some text => say text; pass fuel

/-- All of the standard input. -/
def input : Act String := do readAll ((← piecesLeft) + 1)

/-- The contents of a file, or why there are none. A hyphen is the standard input, and of the file
without end only a part is given. -/
def content (path : String) : Act (Except FileError String) := do
  if path = "-" || path = "/dev/stdin" then return .ok (← input)
  if path = "/dev/null" then return .ok ""
  if path = "/dev/zero" then return .ok (String.ofList (List.replicate 200000 (Char.ofNat 0)))
  match ← entry? path with
  | .ok (.file _ f) => return .ok (ofBytes f.bytes)
  | .ok (.directory _) => return .error .isDirectory
  | .error e => return .error e

/-- The contents of files one after the other, or of the standard input if none are named. -/
def contents (name : String) (paths : List String) : Act String := do
  if paths.isEmpty then return ← input
  let mut out := ""
  for p in paths do
    match ← content p with
    | .ok text => out := out ++ text
    | .error e => refuse name (p ++ ": " ++ reason e)
  return out

/-- The words that are no options, and the options. -/
def operands (args : List String) : List String × List String :=
  (args.filter fun a => !a.startsWith "-" || a = "-",
    args.filter fun a => a.startsWith "-" && a ≠ "-")

/-- The lines of a text without their newlines. -/
def linesOf (text : String) : List String :=
  (inLines text).map fun l => if l.endsWith "\n" then String.ofList l.toList.dropLast else l

/-- Lines with a newline behind each. -/
def unlines (ls : List String) : String := String.join (ls.map (· ++ "\n"))

/-! ### Files -/

/-- A directory made; with `isDeep` also those around it. -/
def makeDirectory (isDeep : Bool) (path : String) : Act Unit := do
  let place ← placeOf path
  let t := (← shared).tree
  if (t.entry? place).isSome then
    if !isDeep then refuse "mkdir" ("cannot create directory '" ++ path ++ "': File exists")
  else if !isDeep && !(match t.entry? place.dropLast with
      | some (.directory _) => true
      | _ => false) then
    refuse "mkdir" ("cannot create directory '" ++ path ++ "': No such file or directory")
  else share fun s => { s with tree := s.tree.addDirectory place }

/-- A file made if there is none. -/
def touch (path : String) : Act Unit := do
  match ← entry? path with
  | .ok _ => return
  | .error _ =>
    let place ← placeOf path
    match (← shared).tree.entry? place.dropLast with
    | some (.directory _) => share fun s => { s with tree := s.tree.addFile place ⟨[], false⟩ }
    | _ => refuse "touch" ("cannot touch '" ++ path ++ "': No such file or directory")

/-- A place and all below it taken away. -/
def removeAll (t : FileTree) (p : Place) : FileTree :=
  ⟨t.directories.filter fun q => !p.isPrefixOf q, t.files.filter fun e => !p.isPrefixOf e.1⟩

/-- A file taken away, or a directory with all in it. -/
def remove (isForced isDeep : Bool) (path : String) : Act Unit := do
  match ← entry? path with
  | .ok (.file p _) => share fun s => { s with tree := s.tree.removeFile p }
  | .ok (.directory p) =>
    if isDeep then share fun s => { s with tree := removeAll s.tree p }
    else refuse "rm" ("cannot remove '" ++ path ++ "': Is a directory")
  | .error e => if !isForced then refuse "rm" ("cannot remove '" ++ path ++ "': " ++ reason e)

/-- A file copied, and taken away from its old place if it is moved. -/
def copy (name : String) (isMoved : Bool) (source target : String) : Act Unit := do
  match ← entry? source with
  | .ok (.file p f) =>
    let place ← placeOf target
    let place := match (← shared).tree.entry? place with
      | some (.directory _) => place ++ [p.getLastD ""]
      | _ => place
    share fun s =>
      let t := s.tree.addFile place f
      { s with tree := if isMoved && p ≠ place then t.removeFile p else t }
  | .ok (.directory _) => refuse name ("-r not specified; omitting directory '" ++ source ++ "'")
  | .error e => refuse name ("cannot stat '" ++ source ++ "': " ++ reason e)

/-- A file made executable, or not. -/
def setExecutable (on : Bool) (path : String) : Act Unit := do
  match ← entry? path with
  | .ok (.file p f) =>
    share fun s => { s with tree := s.tree.addFile p { f with executable := on } }
  | .ok (.directory _) => return
  | .error e => refuse "chmod" ("cannot access '" ++ path ++ "': " ++ reason e)

/-- The names in directories. -/
def list (paths : List String) (isAll : Bool) : Act Unit := do
  for p in if paths.isEmpty then ["."] else paths do
    match ← entry? p with
    | .ok (.directory place) =>
      let names := (Expansion.namesIn (← shared).tree place).filter fun n =>
        isAll || !n.startsWith "."
      say (unlines (names.map ofText))
    | .ok (.file _ _) => say (p ++ "\n")
    | .error e =>
      refuse "ls" ("cannot access '" ++ p ++ "': " ++ reason e)
      setStatus 2

/-! ### Text -/

/-- A span of time in microseconds, from a decimal number of seconds. -/
def duration? (s : String) : Option Nat :=
  let (body, unit) : List Char × Nat := match s.toList.reverse with
    | 's' :: rest => (rest.reverse, 1)
    | 'm' :: rest => (rest.reverse, 60)
    | 'h' :: rest => (rest.reverse, 3600)
    | 'd' :: rest => (rest.reverse, 86400)
    | cs => (cs.reverse, 1)
  let whole := body.takeWhile (· ≠ '.')
  let part := (body.drop (whole.length + 1)).take 6
  if body.isEmpty || !whole.all Char.isDigit || !part.all Char.isDigit then none
  else
    let micros := ((natural? part).getD 0) * Nat.pow 10 (6 - part.length)
    some ((((natural? whole).getD 0) * 1000000 + micros) * unit)

/-- Time passed. -/
def sleep (args : List String) : Act Unit := do
  if args.isEmpty then refuse "sleep" "missing operand"
  else if args.contains "infinity" then spend (horizon + 1)
  else match args.mapM duration? with
    | some ds => spend (ds.foldl (· + ·) 0)
    | none => refuse "sleep" ("invalid time interval '" ++ args.headD "" ++ "'")

/-- Text put out word by word. -/
def echo (args : List String) : Act Unit := do
  match args with
  | "-n" :: rest => say (" ".intercalate rest)
  | "-e" :: rest =>
    let cs := (" ".intercalate rest).toList
    let (text, isOver) := Format.unescape (cs.length + 1) cs
    say (String.ofList text ++ if isOver then "" else "\n")
  | args => say (" ".intercalate args ++ "\n")

/-- Text put out by a format. -/
def printf (args : List String) : Act Unit := do
  match if args.head? = some "--" then args.drop 1 else args with
  | [] =>
    write 2 "printf: usage: printf format [arg ...]\n"
    setStatus 2
  | format :: args =>
    let (text, faults) := Format.print format args
    say text
    for f in faults do
      complain ("printf: " ++ f ++ ": expected numeric value")
    setStatus (if faults.isEmpty then 0 else 1)

/-- A sequence of numbers, one a line. -/
def sequence (args : List String) : Act Unit := do
  let numbers := args.mapM fun a => integer? a.toList
  let put (first step last : Int) : Act Unit := do
    let n := if step = 0 then 0 else (last - first).fdiv step + 1
    say (unlines ((List.range n.toNat).map fun (i : Nat) => toString (first + step * i)))
  match numbers with
  | some [last] => put 1 1 last
  | some [first, last] => put first 1 last
  | some [first, step, last] => put first step last
  | _ => refuse "seq" "missing operand"

/-- How much of a text is wanted: lines or bytes. -/
structure Portion where
  count : Nat := 10
  isBytes : Bool := false
  /-- Whether it is counted from the front, not from the end. -/
  isFromFront : Bool := false
  paths : List String := []

/-- The portion that arguments ask for. -/
def portion : List String → Portion → Portion
  | "-n" :: n :: rest, p => portion rest (numbered n { p with isBytes := false })
  | "-c" :: n :: rest, p => portion rest (numbered n { p with isBytes := true })
  | a :: rest, p =>
    match a.toList with
    | '-' :: 'n' :: cs => portion rest (numbered (String.ofList cs) p)
    | '-' :: 'c' :: cs => portion rest (numbered (String.ofList cs) { p with isBytes := true })
    | '-' :: c :: cs =>
      if c.isDigit then portion rest (numbered (String.ofList (c :: cs)) p) else portion rest p
    | _ => portion rest { p with paths := p.paths ++ [a] }
  | [], p => p
where
  /-- A portion with a number. -/
  numbered (n : String) (p : Portion) : Portion :=
    match n.toList with
    | '+' :: cs => { p with count := (natural? cs).getD 0, isFromFront := true }
    | cs => { p with count := (natural? cs).getD 0 }

/-- The front of a text. -/
def head (args : List String) : Act Unit := do
  let p := portion args {}
  let text ← contents "head" p.paths
  say (if p.isBytes then String.ofList (text.toList.take p.count)
    else String.join ((inLines text).take p.count))

/-- The end of a text. -/
def tail (args : List String) : Act Unit := do
  let p := portion args {}
  let text ← contents "tail" p.paths
  let last {α : Type} (l : List α) : List α :=
    if p.isFromFront then l.drop (p.count - 1) else l.drop (l.length - p.count)
  say (if p.isBytes then String.ofList (last text.toList) else String.join (last (inLines text)))

/-- The characters of a set: ranges and escapes are spelled out. -/
def charSet : (fuel : Nat) → List Char → List Char
  | 0, _ => []
  | _, [] => []
  | fuel + 1, c :: cs =>
    let (d, rest) : Char × List Char := if c = '\\' then
      (match Format.escape cs with
        | (d :: _, rest) => (d, rest)
        | ([], rest) => (c, rest)) else (c, cs)
    match rest with
    | '-' :: e :: rest =>
      ((List.range (e.toNat + 1 - d.toNat)).map fun i => Char.ofNat (d.toNat + i)) ++
        charSet fuel rest
    | rest => d :: charSet fuel rest

/-- Characters replaced by others, or taken away. -/
def exchange (args : List String) : Act Unit := do
  let set (s : String) : List Char := charSet (s.length + 1) s.toList
  let text ← input
  match args with
  | ["-d", a] => say (String.ofList (text.toList.filter fun c => !(set a).contains c))
  | [a, b] =>
    let targets := set b
    let last := targets.getLastD ' '
    say (text.map fun c => match (set a).findIdx? (· = c) with
      | some i => targets[i]?.getD last
      | none => c)
  | _ => refuse "tr" "missing operand"

/-- The numbers of lines, words and bytes. -/
def count (args : List String) : Act Unit := do
  let (paths, options) := operands args
  let text ← contents "wc" paths
  let lines := (text.toList.filter (· = '\n')).length
  let isBlank (c : Char) : Bool := c = ' ' || c = '\n' || c = '\t' || c = '\r'
  let words := ((text.split isBlank).toList.filter fun w => !w.isEmpty).length
  let numbers := if options.contains "-l" then [lines]
    else if options.contains "-w" then [words]
    else if options.contains "-c" || options.contains "-m" then [text.length]
    else [lines, words, text.length]
  say (" ".intercalate (numbers.map toString ++ paths.take 1) ++ "\n")

/-- Lines sorted. -/
def sort (args : List String) : Act Unit := do
  let (paths, options) := operands args
  let ls := linesOf (← contents "sort" paths)
  let key (s : String) : Int := (integer? (s.toList.takeWhile fun c => c.isDigit || c = '-')).getD 0
  let ls := if options.contains "-n" then ls.mergeSort fun a b => key a ≤ key b
    else ls.mergeSort fun a b => a ≤ b
  let ls := if options.contains "-u" then ls.eraseDups else ls
  say (unlines (if options.contains "-r" then ls.reverse else ls))

/-- Lines without those that are equal to the one before. -/
def unique (args : List String) : Act Unit := do
  let ls := linesOf (← contents "uniq" (operands args).1)
  say (unlines (ls.foldr (fun l acc => if acc.head? = some l then acc else l :: acc) []))

/-- The lines that contain a text. -/
def search (args : List String) : Act Unit := do
  let (words, options) := operands args
  match words with
  | [] => refuse "grep" "missing operand"
  | pattern :: paths =>
    let has (c : Char) : Bool := options.any fun o => o.toList.contains c
    let gs : List Glyph := pattern.toList.map fun c => ⟨c, c ≠ '*'⟩
    let cs := pattern.toList
    let starts := cs.head? = some '^'
    let ends := cs.getLast? = some '$'
    let core := (if ends then gs.dropLast else gs).drop (if starts then 1 else 0)
    let marks := (core.map fun g => if g.char = '.' then Mark.one else Mark.exact g.char)
    let marks := (if starts then [] else [Mark.any]) ++ marks ++ if ends then [] else [Mark.any]
    let found := (linesOf (← contents "grep" paths)).filter fun l =>
      Pattern.accepts marks l.toList != has 'v'
    if has 'c' then say (toString found.length ++ "\n")
    else if !has 'q' then say (unlines found)
    setStatus (if found.isEmpty then 1 else 0)

/-- The last step of a path, without an ending. -/
def baseName (args : List String) : Act Unit := do
  let path := (args.headD "").toList
  let trimmed := (path.reverse.dropWhile (· = '/')).reverse
  let base := (trimmed.reverse.takeWhile (· ≠ '/')).reverse
  let base := if base.isEmpty && !path.isEmpty then ['/'] else base
  let ending := (args[1]?.getD "").toList
  say (String.ofList (if ending.isSuffixOf base && ending ≠ base
    then base.take (base.length - ending.length) else base) ++ "\n")

/-- A path without its last step. -/
def directoryName (args : List String) : Act Unit := do
  let path := (args.headD "").toList
  let trimmed := (path.reverse.dropWhile (· = '/'))
  let rest := (trimmed.dropWhile (· ≠ '/')).dropWhile (· = '/')
  say ((if !rest.isEmpty then String.ofList rest.reverse
    else if path.head? = some '/' then "/" else ".") ++ "\n")

/-- A condition, as a status. -/
def test (name : String) (args : List String) : Act Unit := do
  let t := (← shared).tree
  let here := (← mine).directory
  let entry (p : String) : Option Entry := (t.find here ⟨toText p⟩).toOption
  let args? := if name = "[" then
    (if args.getLast? = some "]" then some args.dropLast else none) else some args
  match args? with
  | none => complain "[: missing ]"; setStatus 2
  | some args =>
    match Condition.holds entry args with
    | .ok r => setStatus (if r then 0 else 1)
    | .error e => complain (name ++ ": " ++ e); setStatus 2

/-- The directory of the process. -/
def directory : Act Unit := do
  say (ofText (Place.path (← mine).directory).text ++ "\n")

/-- The variables that other programs see. -/
def environment (args : List String) : Act Unit := do
  let l ← mine
  let exported := l.bindings.reverse.filter fun v => v.2.isExported
  match args with
  | [] => say (unlines (exported.map fun v => v.1 ++ "=" ++ v.2.value))
  | names =>
    for n in names do
      match exported.lookup n with
      | some v => say (v.value ++ "\n")
      | none => setStatus 1

/-- The same line again and again. Somebody who collects it has had enough at some time. -/
def repeated (args : List String) : Act Unit := do
  let line := (if args.isEmpty then "y" else " ".intercalate args) ++ "\n"
  match ← channel? 1 with
  | some (.store _) =>
    say (String.join (List.replicate 20000 line))
    throw (.killed 13)
  | _ =>
    say line
    throw .endless

/-- What comes in passed on, and kept in files. -/
def tee (args : List String) : Act Unit := do
  let (paths, options) := operands args
  let text ← input
  say text
  for p in paths do
    let place ← placeOf p
    if !options.contains "-a" then
      share fun s => { s with tree := s.tree.addFile place ⟨[], false⟩ }
    writeTo (.file place) text

/-- The files named, one after the other, or the standard input. -/
def concatenate (args : List String) : Act Unit := do
  let paths := args.filter fun a => a ≠ "-u" && a ≠ "--"
  if paths.isEmpty then pass ((← piecesLeft) + 1)
  for p in paths do
    if p = "-" then pass ((← piecesLeft) + 1)
    else match ← content p with
      | .ok text => say text
      | .error e => refuse "cat" (p ++ ": " ++ reason e)

/-- A complaint of the program for expressions. -/
def refuseExpression (text : String) : Act Unit := do
  refuse "expr" text
  setStatus 2

/-- A value computed from three words. -/
def compute (args : List String) : Act Unit := do
  let put (n : Int) : Act Unit := do
    say (toString n ++ "\n")
    setStatus (if n = 0 then 1 else 0)
  match args with
  | [a, o, b] =>
    match integer? a.toList, integer? b.toList with
    | some n, some m =>
      match Expr.combine? (if o = "=" then "==" else o) n m with
      | some r => put r
      | none => refuseExpression "division by zero"
    | _, _ =>
      if o = "=" then put (Expr.truth (a = b))
      else if o = "!=" then put (Expr.truth (a ≠ b))
      else refuseExpression "non-integer argument"
  | _ => refuseExpression "missing operand"

/-- The program of a name. -/
def find? (name : String) : Option (List String → Act Unit) :=
  match name with
  | "true" => some fun _ => setStatus 0
  | "false" => some fun _ => setStatus 1
  | "cat" => some concatenate
  | "echo" => some echo
  | "printf" => some printf
  | "sleep" => some sleep
  | "test" => some (test "test")
  | "[" => some (test "[")
  | "pwd" => some fun _ => directory
  | "printenv" => some environment
  | "seq" => some sequence
  | "head" => some head
  | "tail" => some tail
  | "tr" => some exchange
  | "wc" => some count
  | "sort" => some sort
  | "uniq" => some unique
  | "grep" => some search
  | "basename" => some baseName
  | "dirname" => some directoryName
  | "yes" => some repeated
  | "tee" => some tee
  | "expr" => some compute
  | "mkdir" => some fun args => do
    let (paths, options) := operands args
    for p in paths do makeDirectory (options.contains "-p") p
  | "touch" => some fun args => do
    for p in (operands args).1 do touch p
  | "rm" => some fun args => do
    let (paths, options) := operands args
    let has (c : Char) : Bool := options.any fun o => o.toList.contains c
    for p in paths do remove (has 'f') (has 'r' || has 'R') p
  | "rmdir" => some fun args => do
    for p in (operands args).1 do
      let place ← placeOf p
      share fun s => { s with tree := ⟨s.tree.directories.filter (· ≠ place), s.tree.files⟩ }
  | "cp" => some fun args => do
    match (operands args).1 with
    | [a, b] => copy "cp" false a b
    | _ => refuse "cp" "missing file operand"
  | "mv" => some fun args => do
    match (operands args).1 with
    | [a, b] => copy "mv" true a b
    | _ => refuse "mv" "missing file operand"
  | "chmod" => some fun args => do
    match args with
    | mode :: paths => for p in paths do
        setExecutable (["+x", "u+x", "a+x", "755", "0755", "700", "777"].contains mode) p
    | [] => refuse "chmod" "missing operand"
  | "ls" => some fun args => do
    let (paths, options) := operands args
    list paths (options.any fun o => o.toList.contains 'a' || o.toList.contains 'A')
  | _ => none

end BuildRunner.Shell.Utility
