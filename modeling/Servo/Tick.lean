/-!
# Ticks

A `Tick` is what the parts of a simulation are told about one step of its clock.  Times
are of any type `K` with addition and subtraction, such as binary64 numbers or rational
numbers.
-/

namespace Servo

/-- One step of a clock. -/
structure Tick (K : Type) where
  /-- The time at the end of the step. -/
  time : K
  /-- The time since the previous step, which is negative after a jump back. -/
  dt : K
  /-- The number of steps so far, those of a paused clock apart.  A counter of 64 bits has it as
  long as it is below `2 ^ 64`. -/
  iterations : Nat := 0
  paused : Bool := false
  deriving DecidableEq, Repr

namespace Tick

/-- A first step of length `dt`. -/
def first {K : Type} (dt : K) : Tick K where
  time := dt
  dt := dt

/-- Whether the clock jumped back. -/
def isRewind {K : Type} [OfNat K 0] [LT K] [DecidableLT K] (t : Tick K) : Bool := t.dt < 0

end Tick

end Servo
