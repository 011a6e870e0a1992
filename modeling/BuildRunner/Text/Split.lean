/-!
Lists cut at a separator.
-/

namespace BuildRunner.Text

/-- The pieces between the separators: one more than there are separators. -/
def splitAt {α : Type} [BEq α] (sep : α) : List α → List (List α)
  | [] => [[]]
  | c :: cs =>
    if c == sep then [] :: splitAt sep cs
    else match splitAt sep cs with
      | [] => [[c]]
      | piece :: pieces => (c :: piece) :: pieces

/-- The list without its last element when that is `x`. -/
def dropLastIf {α : Type} [BEq α] (x : α) (l : List α) : List α :=
  if l.getLast? == some x then l.dropLast else l

end BuildRunner.Text
