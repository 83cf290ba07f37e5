import Servo.Store

/-!
# Samples

A `Sample` is the state of one joint at one time.  `Sample.ofStore` takes one of each
joint, and `Sample.series` are the samples of a single joint.
-/

namespace Servo

/-- The state of a joint at some time. -/
structure Sample where
  time : Float
  /-- The name of the joint behind that of its model. -/
  joint : String
  velocity : Option Float
  velocityCommand : Option Float
  forceCommand : Option Float
  deriving DecidableEq

namespace Sample

/-- The name of an entity, or its index if it has none. -/
def nameOf (s : Store) (e : Entity) : String := (s.get? e .name).getD e.message

/-- The label of a joint. -/
def label (s : Store) (joint : Entity) : String :=
  match s.get? joint .parent with
  | some model => nameOf s model ++ "/" ++ nameOf s joint
  | none => nameOf s joint

/-- The state of a joint. -/
def ofJoint (s : Store) (time : Float) (joint : Entity) : Sample where
  time := time
  joint := label s joint
  velocity := s.axis? joint .velocity
  velocityCommand := s.axis? joint .velocityCommand
  forceCommand := s.axis? joint .forceCommand

/-- The states of all joints. -/
def ofStore (s : Store) (time : Float) : List Sample :=
  (s.withAttribute .joint).map (ofJoint s time)

/-- The samples with a given label. -/
def series (samples : List Sample) (label : String) : List Sample :=
  samples.filter (·.joint = label)

/-- The last sample with a given label. -/
def last? (samples : List Sample) (label : String) : Option Sample :=
  (series samples label).getLast?

end Sample

end Servo
