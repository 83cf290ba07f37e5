import Servo.Params

/-!
# Worlds

A `World` is a document that describes a simulation: its physics, its models with their
joints and plugins, and the commands that are published while it runs.
-/

namespace Servo

namespace World

/-- The physics that all joints share. -/
structure Physics where
  inertia : Float := 1
  damping : Float := 0
  deriving DecidableEq

/-- A joint of a model. -/
structure Joint where
  name : String
  /-- The velocity at the start; without one the joint has no velocity record. -/
  initialVelocity : Option Float := none
  deriving DecidableEq

/-- What a plugin adds to its model. -/
inductive PluginKind where
  | jointController
  deriving DecidableEq, Repr

/-- A plugin of a model. -/
structure Plugin where
  kind : PluginKind
  params : Params := .empty

/-- A model with its joints. -/
structure Model where
  name : String
  joints : List Joint := []
  plugins : List Plugin := []

/-- A set-point that is published at some time. -/
structure Command where
  time : Float
  topic : String
  value : Float
  deriving DecidableEq

end World

/-- The description of a simulation. -/
structure World where
  version : UInt32
  name : String
  physics : World.Physics := {}
  models : List World.Model := []
  commands : List World.Command := []

/-- The version of the documents that can be used. -/
def World.latestVersion : UInt32 := 1

end Servo
