import BuildRunner.Text.Split
import BuildRunner.Text.Utf8

/-!
Bytes in pieces of any size cut into lines. A line ends at a newline, or where the bytes end; one
carriage return at its end does not belong to it, and broken UTF-8 is replaced.
-/

namespace BuildRunner

/-- The bytes since the last newline. -/
structure LineDecoder where
  pending : List UInt8
  deriving Repr, Inhabited

namespace LineDecoder

/-- Nothing read yet. -/
def empty : LineDecoder := ⟨[]⟩

/-- The newline as a byte. -/
def newline : UInt8 := 0x0A

/-- The carriage return as a byte. -/
def carriageReturn : UInt8 := 0x0D

/-- The text of the bytes of one line. -/
def lineOf (bytes : List UInt8) : String :=
  String.ofList (Text.Utf8.decodeLossy (Text.dropLastIf carriageReturn bytes))

/-- The lines that one more piece completes: the first piece between newlines belongs to the bytes
at hand, and the last one is left over. -/
def push (d : LineDecoder) (piece : List UInt8) : LineDecoder × List String :=
  let pieces := match Text.splitAt newline piece with
    | [] => [d.pending]
    | first :: rest => (d.pending ++ first) :: rest
  (⟨pieces.getLastD []⟩, pieces.dropLast.map lineOf)

/-- The line of the bytes that no newline ended, if there are any. -/
def finish (d : LineDecoder) : LineDecoder × Option String :=
  (empty, if d.pending.isEmpty then none else some (lineOf d.pending))

/-- Whether there are bytes that no newline has ended. -/
def hasPending (d : LineDecoder) : Bool := !d.pending.isEmpty

end LineDecoder

end BuildRunner
