import Servo.Entity
import Servo.Decimal.Layout
import Servo.Text.Quoted

/-!
# Records

An entity has at most one record of each `Attribute`, and `Attribute.Value` is what such a
record holds.  `Records` are all records of one entity, with `Records.get?` and
`Records.set` for each attribute.
-/

namespace Servo

/-- A quantity of a joint, with one value per axis. -/
inductive Quantity where
  /-- The velocity that is observed. -/
  | velocity
  /-- The velocity that the joint is told to have. -/
  | velocityCommand
  /-- The force, or torque, that is applied to the joint. -/
  | forceCommand
  deriving DecidableEq, Repr

/-- What can be recorded about an entity. -/
inductive Attribute where
  | name
  /-- The entity is a model, which owns joints. -/
  | model
  /-- The entity is a joint. -/
  | joint
  /-- The owner of a joint. -/
  | parent
  | axes (q : Quantity)
  deriving DecidableEq, Repr

/-- What a record of an attribute holds. -/
abbrev Attribute.Value : Attribute → Type
  | .name => String
  | .model => Unit
  | .joint => Unit
  | .parent => Entity
  | .axes _ => List Float

namespace Axes

/-- The value of the first axis. -/
def first? (axes : List Float) : Option Float := axes.head?

/-- The axes with the first one replaced; without axes there is one now. -/
def setFirst (v : Float) : List Float → List Float
  | [] => [v]
  | _ :: rest => v :: rest

/-- The values of the axes in descriptions. -/
def description (axes : List Float) : String :=
  "[" ++ ", ".intercalate (axes.map Layout.description.write) ++ "]"

end Axes

/-- The name of a quantity in descriptions of records. -/
def Quantity.label : Quantity → String
  | .velocity => "JointVelocity"
  | .velocityCommand => "JointVelocityCmd"
  | .forceCommand => "JointForceCmd"

/-- A record in descriptions of values. -/
def Attribute.describe : (a : Attribute) → a.Value → String
  | .name, s => "Name(" ++ Text.quote s ++ ")"
  | .model, _ => "ModelTag"
  | .joint, _ => "JointTag"
  | .parent, e => "ParentEntity(" ++ e.description ++ ")"
  | .axes q, values => q.label ++ "(" ++ Axes.description values ++ ")"

/-- The records of one entity. -/
structure Records where
  name : Option String := none
  model : Option Unit := none
  joint : Option Unit := none
  parent : Option Entity := none
  velocity : Option (List Float) := none
  velocityCommand : Option (List Float) := none
  forceCommand : Option (List Float) := none

namespace Records

/-- The record of an attribute. -/
def get? (r : Records) : (a : Attribute) → Option a.Value
  | .name => r.name
  | .model => r.model
  | .joint => r.joint
  | .parent => r.parent
  | .axes .velocity => r.velocity
  | .axes .velocityCommand => r.velocityCommand
  | .axes .forceCommand => r.forceCommand

/-- The records with the record of one attribute replaced, or removed. -/
def set (r : Records) : (a : Attribute) → Option a.Value → Records
  | .name, v => { r with name := v }
  | .model, v => { r with model := v }
  | .joint, v => { r with joint := v }
  | .parent, v => { r with parent := v }
  | .axes .velocity, v => { r with velocity := v }
  | .axes .velocityCommand, v => { r with velocityCommand := v }
  | .axes .forceCommand, v => { r with forceCommand := v }

/-- The value of the first axis of a quantity. -/
def axis? (r : Records) (q : Quantity) : Option Float :=
  (r.get? (.axes q)).bind Axes.first?

/-- The records with the first axis of a quantity replaced; a missing record is made. -/
def setAxis (r : Records) (q : Quantity) (v : Float) : Records :=
  r.set (.axes q) (some (Axes.setFirst v ((r.get? (.axes q)).getD [])))

end Records

end Servo
