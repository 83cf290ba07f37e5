import Servo.Simulation
import Servo.Simulation.Error
import Servo.Simulation.Schedule

/-!
# Runs

`Simulation.run` steps a simulation until its clock reaches an end time or a number of
steps is made.  Commands are published before the first tick that starts at their time or
later, and the states of the joints are recorded at the start, after every few steps and
at the end.
-/

namespace Servo.Simulation

/-- How a simulation is run. -/
structure Options where
  /-- The length of a step. -/
  dt : Float := 1e-3
  endTime : Float := 1
  maxSteps : Nat := 100000
  /-- The number of steps between two recordings. -/
  recordEvery : Nat := 10

/-- The first argument of the options that is out of its range. -/
def Options.fault? (o : Options) : Option Argument :=
  if ¬ (o.dt.isFinite ∧ 0 < o.dt) then some .timeStep
  else if ¬ (o.endTime.isFinite ∧ 0 ≤ o.endTime) then some .endTime
  else if o.maxSteps = 0 then some .maxSteps
  else if o.recordEvery = 0 then some .recordEvery
  else none

/-- What becomes of a network when the commands of an agenda that are due are published. -/
structure Due where
  network : Network
  /-- The commands that are left. -/
  pending : List Scheduled
  events : List Log.Event
  fault? : Option Topic.Error

/-- Publishes the commands at the head of an agenda whose moments have come. -/
def publishDue (now : Float) (n : Network) : List Scheduled → Due
  | [] => ⟨n, [], [], none⟩
  | c :: rest =>
    if c.moment.hasCome now then
      match n.publish c.topic c.value with
      | .error e => ⟨n, rest, [], some e⟩
      | .ok p =>
        let later := publishDue now p.network rest
        let unheard := if p.reached = 0 then [.unheard c.topic] else []
        { later with events := p.events ++ unheard ++ later.events }
    else ⟨n, c :: rest, [], none⟩

/-- A run that has made some steps. -/
structure Progress where
  simulation : Simulation
  /-- The commands that are left. -/
  pending : List Scheduled
  steps : Nat := 0
  samples : Array Sample := #[]
  events : Array Log.Event := #[]

namespace Progress

/-- Adds the states of the joints to the recordings. -/
def record (p : Progress) : Progress :=
  { p with samples := p.samples ++ p.simulation.snapshot }

/-- Whether another step is to be made, the number of steps apart. -/
def goesOn (o : Options) (p : Progress) : Bool := p.simulation.clock.time < o.endTime

/-- One step of a run. -/
def advance (o : Options) (p : Progress) : Progress × Option Topic.Error :=
  let sim := p.simulation
  let due := publishDue sim.clock.time sim.network p.pending
  let sim := { sim with network := due.network }
  let events := p.events ++ due.events
  match due.fault? with
  | some e => ({ p with simulation := sim, pending := due.pending, events }, some e)
  | none =>
    let (_, sim, stepEvents) := sim.step o.dt
    let next : Progress :=
      { p with
        simulation := sim, pending := due.pending, steps := p.steps + 1
        events := events ++ stepEvents }
    (if next.steps % o.recordEvery = 0 then next.record else next, none)

/-- The steps of a run, of which `fuel` are left. -/
def loop (o : Options) : (fuel : Nat) → Progress → Progress × Option Topic.Error
  | 0, p => (p, none)
  | fuel + 1, p =>
    if p.goesOn o then
      match p.advance o with
      | (next, some e) => (next, some e)
      | (next, none) => loop o fuel next
    else (p, none)

end Progress

/-- What becomes of a simulation in a run. -/
structure Report where
  simulation : Simulation
  events : List Log.Event
  /-- The recordings. -/
  result : Except Error (List Sample)

/-- Runs a simulation.  A run that fails leaves the simulation where it was at that time. -/
def run (sim : Simulation) (o : Options) (commands : List Scheduled) : Report :=
  match o.fault? with
  | some a => ⟨sim, [], .error (.argument a)⟩
  | none =>
    let begun : Progress := { simulation := sim, pending := agenda commands }
    match begun.record.loop o o.maxSteps with
    | (p, some e) => ⟨p.simulation, p.events.toList, .error (.topic e)⟩
    | (p, none) =>
      let p := if p.steps % o.recordEvery = 0 then p else p.record
      ⟨p.simulation, p.events.toList, .ok p.samples.toList⟩

end Servo.Simulation
