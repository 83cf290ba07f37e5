import Servo.Clock
import Servo.Simulation.Sample
import Servo.System

/-!
# Simulations

A `Simulation` has a store, a network, a clock and systems that work on them.
`Simulation.step` is one tick: all systems are told the same about it, in each of its parts.
-/

namespace Servo

/-- A simulation at some time. -/
structure Simulation where
  store : Store := .empty
  network : Network := {}
  systems : List System := []
  clock : Clock Float := Clock.start

namespace Simulation

/-- The simulation with one more system, which works after the others. -/
def addSystem (sim : Simulation) (system : System) : Simulation × Log.Event :=
  ({ sim with systems := sim.systems ++ [system] }, .systemAdded system.name)

/-- The simulation with a controller of a model, which is disabled if the parameters
configure none. -/
def attach (sim : Simulation) (model : Entity) (p : Params) :
    Controller × Simulation × List Log.Event :=
  let (c, network, events) := Controller.configure model p sim.store sim.network
  let (sim, added) := { sim with network }.addSystem (.controller c)
  (c, sim, events ++ [added])

/-- Stops the clock, or lets it go on. -/
def setPaused (sim : Simulation) (paused : Bool) : Simulation :=
  { sim with clock := { sim.clock with paused } }

/-- Asks the clock for a jump. -/
def seek (sim : Simulation) (time : Float) : Simulation :=
  { sim with clock := sim.clock.seek time }

/-- The states of all joints. -/
def snapshot (sim : Simulation) : List Sample := Sample.ofStore sim.store sim.clock.time

/-- Publishes a set-point on the topic that a text names. -/
def publish (sim : Simulation) (topic : String) (v : Float) :
    Except Topic.Error (Nat × Simulation × List Log.Event) := do
  let p ← sim.network.publish topic v
  return (p.reached, { sim with network := p.network }, p.events)

/-- One tick, if `dt` is proposed as its length. -/
def step (sim : Simulation) (dt : Float) : Tick Float × Simulation × List Log.Event :=
  let (tick, clock) := sim.clock.step dt
  let (systems, store, events) :=
    System.hooks.work tick sim.network.inboxes sim.store sim.systems
  (tick, { sim with clock, systems, store }, events)

end Simulation

end Servo
