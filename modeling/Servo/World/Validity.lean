import Servo.Topic
import Servo.World

/-!
# Validity of worlds

A world is valid if a simulation can be built from it.  `World.fault?` is the first fault
of a world that is not, in this order: its version, its physics, its models one after the
other, each with its joints, and its commands.
-/

namespace Servo.World

/-- What makes a world invalid. -/
inductive Fault where
  | version (v : UInt32)
  | inertia (x : Float)
  | damping (x : Float)
  /-- Two models have the same name. -/
  | repeatedModel (name : String)
  | unnamedModel
  /-- Two joints of a model have the same name. -/
  | repeatedJoint (model joint : String)
  | initialVelocity (model joint : String) (v : Float)
  | commandTime (topic : String) (time : Float)
  | commandTopic (topic : String) (e : Topic.Error)
  deriving DecidableEq

namespace Fault

/-- The kinds of faults. -/
inductive Kind where
  | duplicateName
  | invalidValue
  | unsupportedVersion
  deriving DecidableEq, Repr

/-- The kind of a fault. -/
def kind : Fault → Kind
  | .version _ => .unsupportedVersion
  | .repeatedModel _ | .repeatedJoint .. => .duplicateName
  | .inertia _ | .damping _ | .unnamedModel | .initialVelocity .. | .commandTime ..
  | .commandTopic .. => .invalidValue

/-- The wording of a name that is used twice. -/
def duplicate (name context : String) : String :=
  "Duplicate name: " ++ name ++ " in " ++ context

/-- The wording of a value that is not allowed. -/
def invalid (field value reason : String) : String :=
  "Invalid value: " ++ field ++ " = " ++ value ++ " (" ++ reason ++ ")"

/-- The wording of a fault. -/
def message : Fault → String
  | .version v => "Unsupported version: " ++ toString v.toNat
  | .inertia x => invalid "physics inertia" (Layout.message.write x) "must be positive and finite"
  | .damping x =>
    invalid "physics damping" (Layout.message.write x) "must be non-negative and finite"
  | .repeatedModel name => duplicate name "models"
  | .unnamedModel => invalid "model name" "" "must not be empty"
  | .repeatedJoint model joint => duplicate joint ("model '" ++ model ++ "' joints")
  | .initialVelocity model joint v =>
    invalid ("joint '" ++ model ++ "/" ++ joint ++ "' initial_velocity") (Layout.message.write v)
      "must be finite"
  | .commandTime topic time =>
    invalid ("command '" ++ topic ++ "' time") (Layout.message.write time)
      "must be non-negative and finite"
  | .commandTopic topic e => invalid "command topic" topic e.message

end Fault

/-- The fault of a version, if any. -/
def versionFault? (v : UInt32) : Option Fault :=
  if v = 0 ∨ latestVersion < v then some (.version v) else none

/-- The first fault of physics. -/
def Physics.fault? (p : Physics) : Option Fault :=
  if ¬ p.inertia.isFinite ∨ p.inertia ≤ 0 then some (.inertia p.inertia)
  else if ¬ p.damping.isFinite ∨ p.damping < 0 then some (.damping p.damping)
  else none

/-- The first fault of the joints of a model, given the names of earlier joints. -/
def jointsFault? (model : String) (seen : List String) : List Joint → Option Fault
  | [] => none
  | j :: rest =>
    if j.name ∈ seen then some (.repeatedJoint model j.name)
    else
      match j.initialVelocity with
      | some v =>
        if ¬ v.isFinite then some (.initialVelocity model j.name v)
        else jointsFault? model (j.name :: seen) rest
      | none => jointsFault? model (j.name :: seen) rest

/-- The first fault of a model. -/
def Model.fault? (m : Model) : Option Fault :=
  if m.name = "" then some .unnamedModel else jointsFault? m.name [] m.joints

/-- The first fault of the models, given the names of earlier models. -/
def modelsFault? (seen : List String) : List Model → Option Fault
  | [] => none
  | m :: rest =>
    if m.name ∈ seen then some (.repeatedModel m.name)
    else
      match m.fault? with
      | some f => some f
      | none => modelsFault? (m.name :: seen) rest

/-- The first fault of a command. -/
def Command.fault? (c : Command) : Option Fault :=
  if ¬ c.time.isFinite ∨ c.time < 0 then some (.commandTime c.topic c.time)
  else
    match Topic.ofString c.topic with
    | .ok _ => none
    | .error e => some (.commandTopic c.topic e)

/-- The first fault of a world. -/
def fault? (w : World) : Option Fault :=
  (versionFault? w.version).or <| w.physics.fault?.or <| (modelsFault? [] w.models).or <|
    w.commands.findSome? Command.fault?

end Servo.World
