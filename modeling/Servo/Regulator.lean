import Servo.Limit

/-!
# The regulator

A `Regulator` turns a sequence of errors into commands: `Regulator.update` adds terms
proportional to the error, to its integral over time and to its rate of change, and both
the integral and the command are kept within limits.
-/

namespace Servo

/-- The gains and limits of a regulator.  Limits in the wrong order limit nothing. -/
structure Gains where
  proportional : Float := 1
  integral : Float := 0
  derivative : Float := 0
  integralMax : Float := 1
  integralMin : Float := -1
  commandMax : Float := 1000
  commandMin : Float := -1000
  /-- Added to the command before it is limited. -/
  offset : Float := 0
  deriving DecidableEq

/-- What a regulator remembers between updates. -/
structure Regulator.State where
  /-- The integral of the error, scaled by its gain. -/
  integral : Float := 0
  /-- The error of the latest update that took time. -/
  lastError : Float := 0
  /-- The rate of change of the error at that update. -/
  errorRate : Float := 0
  /-- The latest command. -/
  output : Float := 0
  deriving DecidableEq

/-- A regulator with its state. -/
structure Regulator where
  gains : Gains := {}
  state : Regulator.State := {}
  deriving DecidableEq

namespace Regulator

/-- The integral after the error lasted for `dt`. -/
def integrate (g : Gains) (integral error dt : Float) : Float :=
  limit (integral + g.integral * error * dt) g.integralMin g.integralMax

/-- The command for an error, given the integral and the rate of change. -/
def command (g : Gains) (error integral rate : Float) : Float :=
  limit (g.proportional * error + integral + g.derivative * rate + g.offset) g.commandMin
    g.commandMax

/-- The regulator after an error that lasted for `dt`; the command is the output of its
state.  An update that takes no time keeps the rate of change. -/
def update (r : Regulator) (error dt : Float) : Regulator :=
  let integral := integrate r.gains r.state.integral error dt
  let rate := if dt == 0 then r.state.errorRate else (error - r.state.lastError) / dt
  let last := if dt == 0 then r.state.lastError else error
  { r with
    state :=
      { integral := integral
        lastError := last
        errorRate := rate
        output := command r.gains error integral rate } }

end Regulator

end Servo
