import BuildRunner.Path

/-!
Tables with paths as keys, in the order of the paths. Two spellings of a path are one key; the
spelling that came first stays.
-/

namespace BuildRunner.Path

/-- Entries in ascending order of their paths. -/
structure Table (α : Type) where
  entries : List (Path × α)
  deriving Repr, Inhabited

namespace Table

variable {α : Type}

/-- The table without entries. -/
def empty : Table α := ⟨[]⟩

/-- The value filed under a path. -/
def get? (t : Table α) (p : Path) : Option α :=
  (t.entries.find? fun e => e.1.same p).map (·.2)

/-- The entries with a value filed under a path. -/
def insertInto (p : Path) (v : α) : List (Path × α) → List (Path × α)
  | [] => [(p, v)]
  | (q, w) :: rest =>
    match p.order q with
    | .lt => (p, v) :: (q, w) :: rest
    | .eq => (q, v) :: rest
    | .gt => (q, w) :: insertInto p v rest

/-- The table with a value filed under a path. -/
def insert (t : Table α) (p : Path) (v : α) : Table α := ⟨insertInto p v t.entries⟩

/-- The table without the entry of a path. -/
def erase (t : Table α) (p : Path) : Table α := ⟨t.entries.filter fun e => !e.1.same p⟩

/-- The paths with an entry, in order. -/
def paths (t : Table α) : List Path := t.entries.map (·.1)

/-- The values in the order of their paths. -/
def values (t : Table α) : List α := t.entries.map (·.2)

/-- How many entries there are. -/
def size (t : Table α) : Nat := t.entries.length

end Table

end BuildRunner.Path
