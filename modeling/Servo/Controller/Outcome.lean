import Servo.Decimal.Layout

/-!
# Outcomes

An `Outcome` says what a controller did in one tick.
-/

namespace Servo.Controller

/-- What a controller did in one tick. -/
inductive Outcome where
  /-- Nothing, because it could not be configured. -/
  | disabled
  /-- Nothing, because the joint has not been found. -/
  | unresolved
  /-- Nothing, because the clock is paused. -/
  | paused
  /-- Nothing, because a record could not be made or read. -/
  | storeFault
  /-- It told the joint a velocity. -/
  | velocity (v : Float)
  /-- It applied a force to the joint. -/
  | force (f : Float)
  deriving DecidableEq

/-- An outcome in descriptions of values. -/
def Outcome.description : Outcome → String
  | .disabled => "Disabled"
  | .unresolved => "Unresolved"
  | .paused => "Paused"
  | .storeFault => "StoreFault"
  | .velocity v => "Velocity(" ++ Layout.description.write v ++ ")"
  | .force f => "Force(" ++ Layout.description.write f ++ ")"

end Servo.Controller
