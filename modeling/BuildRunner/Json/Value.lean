/-!
Values of the JSON data format. Objects keep their members as written; where a name occurs more
than once, the last one counts.
-/

namespace BuildRunner

/-- A JSON value. A number written as a plain natural number below `2 ^ 64` is kept; of any other
number nothing is ever asked. -/
inductive Json where
  | null
  | bool (b : Bool)
  | natural (n : Nat)
  | otherNumber
  | string (s : String)
  | array (items : List Json)
  | object (members : List (String × Json))
  deriving Inhabited

namespace Json

/-- The last member of a name. -/
def lookup (name : String) : List (String × Json) → Option Json
  | [] => none
  | (k, v) :: rest => (lookup name rest).or (if k = name then some v else none)

/-- The members of an object. -/
def object? : Json → Option (List (String × Json))
  | object members => some members
  | _ => none

/-- The items of an array. -/
def array? : Json → Option (List Json)
  | array items => some items
  | _ => none

/-- The text of a string. -/
def string? : Json → Option String
  | string s => some s
  | _ => none

/-- The value of a natural number. -/
def natural? : Json → Option Nat
  | natural n => some n
  | _ => none

/-- The value of a truth value. -/
def bool? : Json → Option Bool
  | bool b => some b
  | _ => none

/-- The member of a name, when the value is an object that has it. -/
def get? (v : Json) (name : String) : Option Json := v.object?.bind (lookup name)

/-- The text of the member of a name, when it is a string. -/
def getString? (v : Json) (name : String) : Option String := (v.get? name).bind string?

/-- The natural number of the member of a name, when it is one. -/
def getNatural? (v : Json) (name : String) : Option Nat := (v.get? name).bind natural?

/-- Whether an object has a member of the name. -/
def has (v : Json) (name : String) : Bool := (v.get? name).isSome

theorem sizeOf_lookup {name : String} {members : List (String × Json)} {v : Json}
    (h : lookup name members = some v) : sizeOf v < sizeOf members := by
  induction members with
  | nil => simp [lookup] at h
  | cons m rest ih =>
    obtain ⟨k, w⟩ := m
    simp only [lookup, Option.or_eq_some_iff] at h
    rcases h with h | ⟨_, h⟩
    · have := ih h
      simp only [List.cons.sizeOf_spec]
      omega
    · split at h
      · simp only [Option.some.injEq] at h
        subst h
        simp only [List.cons.sizeOf_spec, Prod.mk.sizeOf_spec]
        omega
      · simp at h

/-- A member is smaller than its object. -/
theorem sizeOf_get? {v w : Json} {name : String} (h : v.get? name = some w) :
    sizeOf w < sizeOf v := by
  cases v with
  | object members =>
    have := sizeOf_lookup (show lookup name members = some w from h)
    simp only [object.sizeOf_spec]
    omega
  | _ => simp [get?, object?] at h

end Json

end BuildRunner
