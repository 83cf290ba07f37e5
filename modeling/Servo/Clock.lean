import Servo.Tick

/-!
# The clock

A `Clock` makes ticks: `Clock.step` goes on by the length of the step, stands still while
the clock is paused, and jumps to the time that was asked for by `Clock.seek`.
-/

namespace Servo

/-- The time of a simulation. -/
structure Clock (K : Type) where
  time : K
  /-- The number of steps so far, those of a paused clock apart.  A counter of 64 bits has it as
  long as it is below `2 ^ 64`. -/
  iterations : Nat := 0
  paused : Bool := false
  /-- The time to which the next step jumps. -/
  target : Option K := none
  deriving DecidableEq, Repr

namespace Clock

variable {K : Type}

/-- The clock at the start. -/
def start [OfNat K 0] : Clock K where
  time := 0

/-- Asks for a jump, which the next step makes. -/
def seek (c : Clock K) (time : K) : Clock K := { c with target := some time }

/-- The length of the next step and the time at its end, if `dt` is proposed. -/
def advance [OfNat K 0] [Add K] [Sub K] (c : Clock K) (dt : K) : K × K :=
  match c.target with
  | some time => (time - c.time, time)
  | none => if c.paused then (0, c.time) else (dt, c.time + dt)

/-- The next tick, if `dt` is proposed as its length, and the clock after it. -/
def step [OfNat K 0] [Add K] [Sub K] (c : Clock K) (dt : K) : Tick K × Clock K :=
  let (dt, time) := c.advance dt
  let iterations := if c.paused then c.iterations else c.iterations + 1
  (⟨time, dt, iterations, c.paused⟩, ⟨time, iterations, c.paused, none⟩)

end Clock

end Servo
