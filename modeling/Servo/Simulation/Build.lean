import Servo.Simulation
import Servo.Simulation.Error
import Servo.Simulation.Schedule

/-!
# Building simulations

`Simulation.ofWorld` builds the simulation that a world describes: every model is created
together with its joints, in the order of the document, the plugins become controllers,
and the dynamics are the last system.
-/

namespace Servo.Simulation

/-- A simulation that is being built. -/
structure Assembly where
  store : Store := .empty
  network : Network := {}
  controllers : List Controller := []
  events : List Log.Event := []

namespace Assembly

/-- Adds a joint of a model. -/
def addJoint (model : Entity) (a : Assembly) (j : World.Joint) : Except Store.Error Assembly := do
  let (e, store) ← a.store.addJoint model j.name
  match j.initialVelocity with
  | none => return { a with store }
  | some v => return { a with store := ← store.put e (.axes .velocity) [v] }

/-- Adds a plugin of a model. -/
def addPlugin (model : Entity) (a : Assembly) (p : World.Plugin) : Assembly :=
  match p.kind with
  | .jointController =>
    let (c, network, events) := Controller.configure model p.params a.store a.network
    { a with network, controllers := a.controllers ++ [c], events := a.events ++ events }

/-- Adds a model with its joints and plugins. -/
def addModel (a : Assembly) (m : World.Model) : Except Store.Error Assembly := do
  let (e, store) ← a.store.spawnModel m.name
  let a ← m.joints.foldlM (addJoint e) { a with store }
  return m.plugins.foldl (addPlugin e) a

/-- The systems of the simulation, with the events of adding them. -/
def systems (a : Assembly) (d : Dynamics Float) : List System :=
  a.controllers.map .controller ++ [.dynamics d]

end Assembly

/-- What is built from a world. -/
structure Built where
  simulation : Simulation
  /-- The commands of the world with their moments. -/
  schedule : List Scheduled
  events : List Log.Event

/-- The simulation that a world describes. -/
def ofWorld (w : World) : Except Error Built := do
  if let some f := w.fault? then throw (.world f)
  let a ← (w.models.foldlM Assembly.addModel {}).mapError .store
  let d ← (Dynamics.ofNumbers w.physics.inertia w.physics.damping).mapError
    fun e => .argument (.dynamics e)
  let systems := a.systems d
  return {
    simulation := { store := a.store, network := a.network, systems := systems }
    schedule := schedule w.commands
    events :=
      a.events ++ systems.map (fun system => .systemAdded system.name)
        ++ [.worldBuilt w.name w.models.length a.controllers.length] }

end Servo.Simulation
