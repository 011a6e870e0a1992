import BuildRunner.Text.Split

/-!
Paths of files. A path keeps its spelling, but is compared by its components: repeated and
trailing slashes do not count, nor does a `.` anywhere but at the front of a relative path, while
`..` always counts.
-/

namespace BuildRunner

/-- One step of a path. -/
inductive Component where
  | root
  | here
  | up
  | name (s : String)
  deriving DecidableEq, Repr, Inhabited

namespace Component

/-- The rank of a kind of component: the root comes first and names last. -/
def rank : Component → Nat
  | root => 0
  | here => 1
  | up => 2
  | name _ => 3

/-- The order of components; names are ordered by their code points. -/
def order (a b : Component) : Ordering :=
  match a, b with
  | name s, name t => compare s t
  | a, b => compare a.rank b.rank

/-- The spelling of a component. -/
def text : Component → String
  | root => "/"
  | here => "."
  | up => ".."
  | name s => s

end Component

/-- A path as it was spelled. -/
structure Path where
  text : String
  deriving DecidableEq, Repr, Inhabited

namespace Path

/-- The pieces between the slashes of a path. -/
def pieces (p : Path) : List (List Char) := Text.splitAt '/' p.text.toList

/-- The component that a piece between slashes stands for; empty pieces and `.` stand for none. -/
def componentOf? (piece : List Char) : Option Component :=
  if piece = [] ∨ piece = ['.'] then none
  else if piece = ['.', '.'] then some .up
  else some (.name (String.ofList piece))

/-- Whether a path starts at the root. -/
def isAbsolute (p : Path) : Bool := p.text.toList.head? == some '/'

/-- The components of a path. -/
def components (p : Path) : List Component :=
  let ps := p.pieces
  let front : List Component :=
    if p.isAbsolute then [.root] else if ps.head? = some ['.'] then [.here] else []
  front ++ ps.filterMap componentOf?

/-- The spelling of a list of components: slashes between them, and none behind the root. -/
def spell : List Component → String
  | [] => ""
  | .root :: rest => "/" ++ "/".intercalate (rest.map Component.text)
  | cs => "/".intercalate (cs.map Component.text)

/-- The path with its components spelled out. -/
def ofComponents (cs : List Component) : Path := ⟨spell cs⟩

/-- Whether two paths have the same components. -/
def same (p q : Path) : Bool := p.components == q.components

/-- The order of lists of components: the first difference decides. -/
def orderComponents : List Component → List Component → Ordering
  | [], [] => .eq
  | [], _ :: _ => .lt
  | _ :: _, [] => .gt
  | a :: as, b :: bs => (a.order b).then (orderComponents as bs)

/-- The order of paths by their components. -/
def order (p q : Path) : Ordering := orderComponents p.components q.components

/-- A path behind a base, unless it is absolute. -/
def join (base p : Path) : Path :=
  if p.isAbsolute then p
  else if base.text = "" ∨ base.text.toList.getLast? = some '/' then ⟨base.text ++ p.text⟩
  else ⟨base.text ++ "/" ++ p.text⟩

/-- A path behind a base, unless it is absolute, spelled out without `.`. -/
def resolve (base p : Path) : Path :=
  ofComponents ((base.join p).components.filter (· ≠ .here))

/-- Pieces between slashes, in reverse, from the last one that stands for a component. -/
def dropVoid (ps : List (List Char)) : List (List Char) :=
  ps.dropWhile fun p => p = [] ∨ p = ['.']

/-- The text with slashes between its pieces. -/
def unpieces (ps : List (List Char)) : String := "/".intercalate (ps.map String.ofList)

/-- The path without its last component, the rest as it was spelled: nothing for the root and for
the empty path. -/
def parent? (p : Path) : Option Path :=
  match p.pieces with
  | [] => none
  | first :: body =>
    if p.isAbsolute then
      match dropVoid body.reverse with
      | [] => none
      | _ :: rest => some ⟨"/" ++ unpieces (dropVoid rest).reverse⟩
    else
      match dropVoid body.reverse with
      | [] => if first = [] then none else some ⟨""⟩
      | _ :: rest => some ⟨unpieces (first :: (dropVoid rest).reverse)⟩

/-- The path, its parent, the parent of that, and so on; `fuel` bounds their number. -/
def ancestorsWithin : Nat → Path → List Path
  | 0, p => [p]
  | fuel + 1, p => p :: (match p.parent? with
    | none => []
    | some q => ancestorsWithin fuel q)

/-- The path, its parent, the parent of that, and so on. -/
def ancestors (p : Path) : List Path := ancestorsWithin p.components.length p

end Path

end BuildRunner
