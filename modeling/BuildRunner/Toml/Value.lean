/-!
Values of the TOML configuration format, as far as a configuration can ask about them.
-/

namespace BuildRunner

/-- A TOML value. Numbers and dates are only told apart from the rest. -/
inductive Toml where
  | string (s : String)
  | boolean (b : Bool)
  | other
  | array (items : List Toml)
  | table (entries : List (String × Toml))
  deriving Inhabited

namespace Toml

/-- The text of a string. -/
def string? : Toml → Option String
  | string s => some s
  | _ => none

/-- The value of a truth value. -/
def boolean? : Toml → Option Bool
  | boolean b => some b
  | _ => none

/-- The items of an array. -/
def array? : Toml → Option (List Toml)
  | array items => some items
  | _ => none

/-- The texts of an array of strings. -/
def strings? (v : Toml) : Option (List String) := v.array?.bind (·.mapM string?)

/-- The fields of a record. A table may hold no other keys than their names; an array holds them in
their order, and what stands behind the last one does not count. -/
def fields? (names : List String) : Toml → Option (List (Option Toml))
  | table entries =>
    if entries.all fun e => names.contains e.1 then
      some (names.map fun name => (entries.find? fun e => e.1 = name).map (·.2))
    else none
  | array items => some ((List.range names.length).map (items[·]?))
  | _ => none

end Toml

end BuildRunner
