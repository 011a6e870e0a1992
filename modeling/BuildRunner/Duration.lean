import BuildRunner.Number.Binary64

/-!
Instants and spans of time, counted in nanoseconds. A span is shown in seconds with two places,
rounded from the nearest binary number to `seconds + nanoseconds / 10⁹`.
-/

namespace BuildRunner

/-- A point in time, in nanoseconds from some fixed moment. -/
structure Instant where
  nanos : Nat
  deriving DecidableEq, Repr, Inhabited

/-- A span of time, in nanoseconds. -/
structure Duration where
  nanos : Nat
  deriving DecidableEq, Repr, Inhabited

namespace Instant

/-- The point a number of milliseconds after the fixed moment. -/
def ofMillis (ms : Nat) : Instant := ⟨ms * 1000000⟩

/-- The span from an earlier point to this one, and none at all from a later one. -/
def since (t earlier : Instant) : Duration := ⟨t.nanos - earlier.nanos⟩

/-- The point a span later. -/
def after (t : Instant) (d : Duration) : Instant := ⟨t.nanos + d.nanos⟩

instance : LE Instant := ⟨fun s t => s.nanos ≤ t.nanos⟩
instance : LT Instant := ⟨fun s t => s.nanos < t.nanos⟩
instance (s t : Instant) : Decidable (s ≤ t) := inferInstanceAs (Decidable (s.nanos ≤ t.nanos))
instance (s t : Instant) : Decidable (s < t) := inferInstanceAs (Decidable (s.nanos < t.nanos))

end Instant

namespace Duration

open Number

/-- No time at all. -/
def zero : Duration := ⟨0⟩

/-- A number of milliseconds. -/
def ofMillis (ms : Nat) : Duration := ⟨ms * 1000000⟩

/-- Whole seconds and the nanoseconds beyond them. -/
def ofParts (secs nanos : Nat) : Duration := ⟨secs * 1000000000 + nanos⟩

/-- The whole milliseconds of a span. -/
def millis (d : Duration) : Nat := d.nanos / 1000000

/-- The span in seconds as a binary number. -/
def seconds (d : Duration) : Binary64 :=
  .add (.ofNat (d.nanos / 1000000000))
    (.div (.ofNat (d.nanos % 1000000000)) (.ofNat 1000000000))

/-- The span in seconds with two places. -/
def secondsText (d : Duration) : String := hundredthsText d.seconds.toHundredths

end Duration

end BuildRunner
