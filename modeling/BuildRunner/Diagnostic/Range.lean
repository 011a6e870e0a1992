/-!
Places in a file. Lines and columns count from zero and the end of a range is exclusive; the tool
counts both from one. The structures set no bound on coordinates. Those that are read from the tool
are cut to the largest number of 32 bits, `Range.maxCoordinate`, before a range is made of them.
-/

namespace BuildRunner

/-- A line and a column. -/
structure Position where
  line : Nat
  column : Nat
  deriving DecidableEq, Repr, Inhabited

namespace Position

/-- Whether a position comes before another: the line decides, then the column. -/
def before (p q : Position) : Bool :=
  p.line < q.line || (p.line == q.line && p.column < q.column)

end Position

/-- A stretch of text. -/
structure Range where
  start : Position
  stop : Position
  deriving DecidableEq, Repr, Inhabited

namespace Range

/-- The largest coordinate that is read from the tool. -/
def maxCoordinate : Nat := Nat.pow 2 32 - 1

/-- The range of coordinates that count from one. Zeros count as ones, and an end before the start
is moved to it. -/
def ofTool (lineStart columnStart lineEnd columnEnd : Nat) : Range :=
  let start : Position := ⟨lineStart - 1, columnStart - 1⟩
  let stop : Position := ⟨lineEnd - 1, columnEnd - 1⟩
  if stop.before start then ⟨start, start⟩ else ⟨start, stop⟩

/-- Whether a range holds nothing. -/
def isEmpty (r : Range) : Bool := r.start == r.stop

end Range

end BuildRunner
