import BuildRunner.Toml.Scalar

/-!
TOML text as a whole: values, and the tables that headers and dotted keys build up. A table can be
opened by one header only, a key has one value, and arrays and tables written inline are closed.
-/

namespace BuildRunner.Toml

/-- How a table came to be. -/
inductive Origin where
  /-- It lies on the way to a table with a header. -/
  | implied
  /-- It has a header. -/
  | header
  /-- It lies on the way of a dotted key. -/
  | dotted
  deriving DecidableEq

/-- A part of a document that is being built up. -/
inductive Node where
  | value (v : Toml)
  | table (origin : Origin) (entries : List (String × Node))
  | tables (items : List (List (String × Node)))

/-- The entries of a table. -/
abbrev Entries := List (String × Node)

/-- The entries with the one of a key replaced, or added behind the others. -/
def Entries.set (key : String) (n : Node) : Entries → Entries
  | [] => [(key, n)]
  | (k, m) :: rest => if k = key then (key, n) :: rest else (k, m) :: Entries.set key n rest

/-- The entry of a key. -/
def Entries.get? (key : String) (es : Entries) : Option Node :=
  (es.find? fun e => e.1 = key).map (·.2)

/-- The entries changed at the end of a way of keys. Tables on the way are made with `origin` where
they are missing; arrays of tables are entered at their last table. Unless `enter`, tables with
a header and arrays of tables are not entered. -/
def Entries.at? (origin : Origin) (enter : Bool) (change : Entries → Option Entries) :
    List String → Entries → Option Entries
  | [], es => change es
  | key :: keys, es =>
    match es.get? key with
    | none =>
      (Entries.at? origin enter change keys []).map fun sub => es.set key (.table origin sub)
    | some (.value _) => none
    | some (.table o sub) =>
      if o = .header ∧ ¬ enter then none
      else (Entries.at? origin enter change keys sub).map fun sub => es.set key (.table o sub)
    | some (.tables items) =>
      if enter then
        match items.getLast? with
        | none => none
        | some last =>
          (Entries.at? origin enter change keys last).map fun last =>
            es.set key (.tables (items.dropLast ++ [last]))
      else none

/-- A value filed under a key that has none. -/
def addValue (key : String) (v : Toml) (es : Entries) : Option Entries :=
  if (es.get? key).isSome then none else some (es ++ [(key, .value v)])

/-- A value filed under dotted keys. -/
def addDotted (keys : List String) (v : Toml) (es : Entries) : Option Entries :=
  match keys.getLast? with
  | none => none
  | some key => Entries.at? .dotted false (addValue key v) keys.dropLast es

/-- A table opened by its header. -/
def openTable (keys : List String) (es : Entries) : Option Entries :=
  match keys.getLast? with
  | none => none
  | some key =>
    Entries.at? .implied true (fun es =>
      match es.get? key with
      | none => some (es ++ [(key, .table .header [])])
      | some (.table .implied sub) => some (es.set key (.table .header sub))
      | _ => none) keys.dropLast es

/-- One more table of an array of tables opened by its header. -/
def openItem (keys : List String) (es : Entries) : Option Entries :=
  match keys.getLast? with
  | none => none
  | some key =>
    Entries.at? .implied true (fun es =>
      match es.get? key with
      | none => some (es ++ [(key, .tables [[]])])
      | some (.tables items) => some (es.set key (.tables (items ++ [[]])))
      | _ => none) keys.dropLast es

mutual

/-- The value of a finished part. -/
def Node.toToml : Node → Toml
  | .value v => v
  | .table _ entries => .table (entriesToToml entries)
  | .tables items => .array (itemsToToml items)

/-- The values of finished entries. -/
def entriesToToml : List (String × Node) → List (String × Toml)
  | [] => []
  | (k, n) :: rest => (k, n.toToml) :: entriesToToml rest

/-- The values of finished tables. -/
def itemsToToml : List (List (String × Node)) → List Toml
  | [] => []
  | es :: rest => .table (entriesToToml es) :: itemsToToml rest

end

/-! ### Values -/

mutual

/-- A value. -/
def readValue : (fuel : Nat) → List Char → Option (Toml × List Char)
  | 0, _ => none
  | fuel + 1, cs =>
    match readString cs with
    | some r => r.map fun (s, rest) => (.string s, rest)
    | none =>
      match cs with
      | '[' :: rest => do
        let (items, rest) ← readItems fuel (← skipTrivia false rest)
        return (.array items, rest)
      | '{' :: rest => do
        let (entries, rest) ← readEntries fuel [] (← skipTrivia false rest)
        return (.table (entriesToToml entries), rest)
      | cs => do
        let (t, rest) := token cs
        return (← ofToken? t, rest)

/-- The items of an array up to its closing bracket. -/
def readItems : (fuel : Nat) → List Char → Option (List Toml × List Char)
  | 0, _ => none
  | fuel + 1, cs =>
    match cs with
    | ']' :: rest => some ([], rest)
    | cs => do
      let (v, rest) ← readValue fuel cs
      match ← skipTrivia false rest with
      | ',' :: rest =>
        let (vs, rest) ← readItems fuel (← skipTrivia false rest)
        return (v :: vs, rest)
      | ']' :: rest => return ([v], rest)
      | _ => none

/-- The entries of an inline table up to its closing brace. -/
def readEntries : (fuel : Nat) → Entries → List Char → Option (Entries × List Char)
  | 0, _, _ => none
  | fuel + 1, entries, cs =>
    match cs with
    | '}' :: rest => some (entries, rest)
    | cs => do
      let (keys, rest) ← readKeys cs.length cs
      match rest with
      | '=' :: rest =>
        let (v, rest) ← readValue fuel (skipSpace rest)
        let entries ← addDotted keys v entries
        match ← skipTrivia false rest with
        | ',' :: rest => readEntries fuel entries (← skipTrivia false rest)
        | '}' :: rest => return (entries, rest)
        | _ => none
      | _ => none

end

/-! ### Documents -/

/-- The lines of a document, with the way of keys to the open table. -/
def readLines : (fuel : Nat) → (way : List String) → Entries → List Char → Option Entries
  | 0, _, _, _ => none
  | fuel + 1, way, es, cs => do
    match ← skipTrivia false cs with
    | [] => return es
    | '[' :: '[' :: rest =>
      let (keys, rest) ← readKeys rest.length rest
      match rest with
      | ']' :: ']' :: rest => readLines fuel keys (← openItem keys es) (← endOfLine false rest)
      | _ => none
    | '[' :: rest =>
      let (keys, rest) ← readKeys rest.length rest
      match rest with
      | ']' :: rest => readLines fuel keys (← openTable keys es) (← endOfLine false rest)
      | _ => none
    | cs =>
      let (keys, rest) ← readKeys cs.length cs
      match rest with
      | '=' :: rest =>
        let (v, rest) ← readValue (2 * rest.length + 2) (skipSpace rest)
        let es ← Entries.at? .implied true (addDotted keys v) way es
        readLines fuel way es (← endOfLine false rest)
      | _ => none

/-- The text without a byte order mark at its front. -/
def dropMark (cs : List Char) : List Char :=
  if cs.head? = some (Char.ofNat 0xFEFF) then cs.tail else cs

/-- The table that a text spells. -/
def parse? (s : String) : Option Toml :=
  let cs := dropMark s.toList
  (readLines (cs.length + 1) [] [] cs).map fun es => .table (entriesToToml es)

end BuildRunner.Toml
