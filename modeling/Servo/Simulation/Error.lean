import Servo.Dynamics
import Servo.World.Validity

/-!
# Errors of simulations
-/

namespace Servo.Simulation

/-- An argument that is out of its range. -/
inductive Argument where
  | timeStep
  | endTime
  | maxSteps
  | recordEvery
  | dynamics (e : Dynamics.Error)
  deriving DecidableEq, Repr

/-- What is demanded of an argument. -/
def Argument.message : Argument → String
  | .timeStep => "dt must be positive"
  | .endTime => "t_end must be non-negative"
  | .maxSteps => "max_steps must be positive"
  | .recordEvery => "record_every must be positive"
  | .dynamics e => e.message

/-- Why a simulation cannot be built or run. -/
inductive Error where
  | argument (a : Argument)
  | store (e : Store.Error)
  | topic (e : Topic.Error)
  | world (f : World.Fault)
  deriving DecidableEq

/-- The wording of an error. -/
def Error.message : Error → String
  | .argument a => "Invalid argument: " ++ a.message
  | .store e => "Store error: " ++ e.message
  | .topic e => "Transport error: " ++ e.message
  | .world f => "Project error: " ++ f.message

end Servo.Simulation
