import Servo.Entity
import Servo.Params
import Servo.Regulator

/-!
# Configuration of a controller

A `Controller.Config` says which joint a controller drives and how.  `Config.ofParams`
reads one from parameters: the joint is required, every other option has a default, and
the first option that cannot be read is the error.
-/

namespace Servo.Controller

/-- How a set-point reaches the joint. -/
inductive Mode where
  /-- It is the velocity that the joint is told to have. -/
  | velocity
  /-- A regulator follows it with forces. -/
  | force
  deriving DecidableEq, Repr

/-- The name of a mode in documents and lists. -/
def Mode.name : Mode → String
  | .velocity => "velocity"
  | .force => "force"

/-- Why a controller cannot be configured. -/
inductive Error where
  /-- A required parameter is absent or empty. -/
  | missing (key : String)
  | unreadable (e : Params.Error)
  /-- The entity that should own the joint is not a model. -/
  | notModel (e : Entity)
  deriving DecidableEq

/-- The wording of an error. -/
def Error.message : Error → String
  | .missing key => "Missing required parameter: " ++ key
  | .unreadable e => e.message
  | .notModel e => "Entity " ++ e.message ++ " is not a model"

/-- The configuration of a controller. -/
structure Config where
  /-- The name of the joint that is driven. -/
  joint : String
  /-- The set-point until another one arrives. -/
  initialVelocity : Float := 0
  mode : Mode := .velocity
  gains : Gains := {}
  /-- The topic of the set-points; without one it is derived from the names. -/
  topic : Option String := none
  deriving DecidableEq

namespace Config

/-- The parameter that names the joint. -/
def jointKey : String := "joint_name"

/-- The parameter with the first set-point. -/
def initialVelocityKey : String := "initial_velocity"

/-- The names of the parameters that mean something. -/
def keys : List String :=
  [jointKey, initialVelocityKey, "use_force_commands", "p_gain", "i_gain", "d_gain", "i_max",
    "i_min", "cmd_max", "cmd_min", "cmd_offset", "topic"]

/-- The joint that parameters name. -/
def jointOfParams (p : Params) : Except Error String := do
  match ← (p.string? jointKey).mapError .unreadable with
  | none => .error (.missing jointKey)
  | some name => if name = "" then .error (.missing jointKey) else return name

/-- The gains and limits that parameters give. -/
def gainsOfParams (p : Params) : Except Params.Error Gains := do
  let d : Gains := {}
  return {
    proportional := ← p.floatD "p_gain" d.proportional
    integral := ← p.floatD "i_gain" d.integral
    derivative := ← p.floatD "d_gain" d.derivative
    integralMax := ← p.floatD "i_max" d.integralMax
    integralMin := ← p.floatD "i_min" d.integralMin
    commandMax := ← p.floatD "cmd_max" d.commandMax
    commandMin := ← p.floatD "cmd_min" d.commandMin
    offset := ← p.floatD "cmd_offset" d.offset }

/-- The configuration that parameters give. -/
def ofParams (p : Params) : Except Error Config := do
  let joint ← jointOfParams p
  let gains ← (gainsOfParams p).mapError .unreadable
  let byForce ← (p.boolD "use_force_commands" false).mapError .unreadable
  let initialVelocity ← (p.floatD initialVelocityKey 0).mapError .unreadable
  let topic ← (p.string? "topic").mapError .unreadable
  return {
    joint := joint
    initialVelocity := initialVelocity
    mode := if byForce then .force else .velocity
    gains := gains
    topic := topic }

/-- The topic for the set-points of a joint. -/
def defaultTopic (model joint : String) : String :=
  "/model/" ++ model ++ "/joint/" ++ joint ++ "/cmd_vel"

/-- The topic on which a controller of a model expects its set-points. -/
def topicFor (c : Config) (model : String) : String :=
  c.topic.getD (defaultTopic model c.joint)

end Config

end Servo.Controller
