import Servo.Proofs.Simulation.Capacity
import Servo.Proofs.Simulation.JointCourse

/-!
# The closed loop

A joint that is driven by one controller with a regulator goes through a `Loop`: a velocity
and the regulator, without store, names and topics.  `closedLoop_force` says that in every run
of every world the joint has the velocity and the force of that loop after every tick.
-/

namespace Servo.Simulation

open Controller

/-! ### Loops -/

/-- A velocity with the regulator that acts on it. -/
structure Loop where
  velocity : Float
  regulator : Regulator

namespace Loop

/-- The force that was last applied. -/
def force (x : Loop) : Float := x.regulator.state.output

/-- The loop after a tick with a given set-point. -/
def tick (d : Dynamics Float) (dt : Float) (x : Loop) (target : Float) : Loop :=
  let regulator := x.regulator.update (x.velocity - target) dt
  ⟨d.advance x.velocity regulator.state.output dt, regulator⟩

/-- The loop after some ticks; the set-point of the tick number `k + 1` is `targets k`. -/
def after (d : Dynamics Float) (dt : Float) (targets : Nat → Float) (x : Loop) : Nat → Loop
  | 0 => x
  | k + 1 => (after d dt targets x k).tick d dt (targets k)

/-- The loop of a joint and a controller at the start. -/
def start (j : World.Joint) (c : Config) : Loop :=
  ⟨j.initialVelocity.getD 0, { gains := c.gains }⟩

end Loop

/-! ### The bench of a loop -/

/-- The records of a joint show the force and the velocity of a loop, and the joint is not
told a velocity. -/
structure Shows (r : Records) (x : Loop) : Prop where
  force : r.axis? .forceCommand = some x.force
  velocity : r.axis? .velocity = some x.velocity
  untold : r.get? (.axes .velocityCommand) = none

/-- A bench goes through a loop: there is one driver, with the inbox `i` and the regulator of
the loop, and the joint has the velocity of the loop. -/
structure Bench.Loops (y : Bench) (i : Inbox) (x : Loop) : Prop where
  drivers : ∃ a : Active, y.drivers = [a] ∧ a.inbox = i ∧ a.actuation = .force x.regulator
  velocity : (withVelocityRecord y.records).axis? .velocity = some x.velocity
  untold : y.records.get? (.axes .velocityCommand) = none

theorem Shows.withVelocityRecord {r : Records} {x : Loop} (h : Shows r x) :
  (withVelocityRecord r).axis? .velocity = some x.velocity
  := by
  obtain ⟨axes, haxes, -⟩ := Option.bind_eq_some_iff.1 h.velocity
  rw [withVelocityRecord_eq_self haxes, h.velocity]

/-- A force on a joint that is not told a velocity accelerates it. -/
theorem shows_moved {r : Records} {v : Float}
    (hvelocity : (withVelocityRecord r).axis? .velocity = some v)
    (huntold : r.get? (.axes .velocityCommand) = none) (d : Dynamics Float) {dt : Float}
    (hdt : 0 < dt) (g : Regulator) :
  Shows (d.moved dt ((withVelocityRecord r).setAxis .forceCommand g.state.output))
    ⟨d.advance v g.state.output dt, g⟩
  := by
  obtain ⟨driven, hdriven⟩ : ∃ driven : Records, driven
    = (withVelocityRecord r).setAxis .forceCommand g.state.output := ⟨_, rfl⟩
  have hcommand : driven.get? (.axes .velocityCommand) = none := by
    rw [hdriven, Records.get?_setAxis_of_ne (by decide),
      get?_withVelocityRecord_of_ne (by decide), huntold]
  have hforce : driven.axis? .forceCommand = some g.state.output := by
    rw [hdriven, Records.axis?_setAxis_self]
  have hobserved : driven.axis? .velocity = some v := by
    rw [hdriven, Records.axis?_setAxis_of_ne (by decide), hvelocity]
  rw [← hdriven]
  constructor
  case force =>
    rw [Records.axis?, Dynamics.get?_moved (by decide)]
    apply hforce
  case velocity =>
    have hno : driven.axis? .velocityCommand = none := by
      rw [Records.axis?, hcommand, Option.bind_none]
    rw [Dynamics.axis?_moved_of_forceCommand hno hforce d hdt, hobserved, Option.getD_some]
  case untold => rw [Dynamics.get?_moved (by decide), hcommand]

/-- A tick of the bench is one of the loop, and the joint shows it. -/
theorem Bench.Loops.tick {y : Bench} {i : Inbox} {x : Loop} (h : y.Loops i x) {dt : Float}
    (hdt : 0 < dt) (joint : Entity) (d : Dynamics Float) (b : Inboxes) :
  (y.tick joint d dt b).Loops i (x.tick d dt (b.read i))
    ∧ Shows (y.tick joint d dt b).records (x.tick d dt (b.read i))
  := by
  obtain ⟨a, hdrivers, rfl, hactuation⟩ := h.drivers
  obtain ⟨g, hg⟩ : ∃ g, g = x.regulator.update (x.velocity - b.read a.inbox) dt := ⟨_, rfl⟩
  have hloop : x.tick d dt (b.read a.inbox) = ⟨d.advance x.velocity g.state.output dt, g⟩ := by
    rw [Loop.tick, hg]
  have htick : y.tick joint d dt b = ⟨[a.afterDrive joint (.force g)],
      d.moved dt ((withVelocityRecord y.records).setAxis .forceCommand g.state.output)⟩ := by
    simp only [Bench.tick, hdrivers, driveAll, hactuation, Actuation.driven, h.velocity, hg]
  have hshows := shows_moved h.velocity h.untold d hdt g
  rw [htick, hloop]
  refine ⟨?_, hshows⟩
  constructor
  case drivers => exact ⟨_, rfl, rfl, rfl⟩
  case velocity => apply hshows.withVelocityRecord
  case untold => apply hshows.untold

/-- The bench of a joint with one controller that has a regulator starts a loop. -/
theorem loops_start {n : Network} {owner : Entity} {name : String} {c : Config} {a : Active}
    (ha : Installed n owner name c a) (hforce : c.mode = .force) (j : World.Joint) :
  Bench.Loops ⟨[a], jointRecords owner j⟩ a.inbox (Loop.start j c)
  := by
  constructor
  case drivers =>
    use a, rfl, rfl
    rw [ha.actuation, Actuation.ofConfig, hforce]
    rfl
  case velocity =>
    rw [Records.axis?, get?_withVelocityRecord]
    cases hv : j.initialVelocity with
    | none => simp [jointRecords, Records.get?, Loop.start, hv, Axes.first?]
    | some v => simp [jointRecords, Records.get?, Loop.start, hv, Axes.first?]
  case untold => rfl

/-- After some ticks the bench is where the loop is. -/
theorem loops_benchAt {w : World} (hw : w.Valid) {n : Network} {owner : Entity}
    {m : World.Model} {c : Config} {a : Active} (ha : Installed n owner m.name c a)
    (hforce : c.mode = .force) (j : World.Joint) {dt : Float} (hdt : 0 < dt) (e : Entity)
    (d : Dynamics Float) (k : Nat) :
  let y := benchAt e d dt n (schedule w.commands) ⟨[a], jointRecords owner j⟩
  let x := (Loop.start j c).after d dt fun i => w.setPoint m.name c (tickTime dt i)
  (y k).Loops a.inbox (x k) ∧ Shows (y (k + 1)).records (x (k + 1))
  := by
  intro y x
  have hstep : ∀ k, (y k).Loops a.inbox (x k) →
      (y (k + 1)).Loops a.inbox (x (k + 1)) ∧ Shows (y (k + 1)).records (x (k + 1)) := by
    intro k hk
    have htick := hk.tick hdt e d (published n (heard dt (schedule w.commands) (k + 1))).inboxes
    rw [read_heard hw ha dt k] at htick
    apply htick
  have hloops : ∀ k, (y k).Loops a.inbox (x k) := by
    intro k
    induction k with
    | zero => apply loops_start ha hforce j
    | succ k ih => apply (hstep k ih).1
  exact ⟨hloops k, (hstep k (hloops k)).2⟩

/-! ### Runs -/

/-- A joint with exactly one controller, which has a regulator, goes through the closed loop
in every run.  A world without that run is one that needs more entities than there are. -/
theorem closedLoop_force {w : World} (hw : w.fault? = none) {o : Options}
    (ho : o.fault? = none) {m : World.Model} (hm : m ∈ w.models) {j : World.Joint}
    (hj : j ∈ m.joints) {c : Config} (hc : m.driving j.name = [c]) (hforce : c.mode = .force) :
  (Entity.capacity < w.size ∧ ofWorld w = .error (.store .exhausted))
    ∨ ∃ b e, ofWorld w = .ok b ∧ b.Completes o
      ∧ ∀ k sim, b.simulation.stateAfter? o b.schedule (k + 1) = some sim →
        let x := (Loop.start j c).after (dynamicsOf w.physics) o.dt
          (fun i => w.setPoint m.name c (tickTime o.dt i)) (k + 1)
        (∀ e', sim.store.IsJoint m.name j.name e' ↔ e' = e)
          ∧ sim.clock.time = tickTime o.dt (k + 1)
          ∧ sim.store.axis? e .forceCommand = some x.force
          ∧ sim.store.axis? e .velocity = some x.velocity
          ∧ sim.store.get? e (.axes .velocityCommand) = none
  := by
  have hvalid := World.fault?_eq_none_iff.1 hw
  rcases ofWorld_of_valid hvalid with hfull | ⟨b, hb⟩
  · exact .inl hfull
  · right
    obtain ⟨-, hschedule, -⟩ := ofWorld_eq_ok hb
    obtain ⟨e, owner, drivers, hcourse⟩ := jointCourse_of_ofWorld hb ho hm hj
    have hinstalled := hcourse.installed
    rw [hc] at hinstalled
    obtain ⟨a, rest, ha, hnil, rfl⟩ := List.forall₂_cons_left_iff.1 hinstalled
    obtain rfl := List.forall₂_nil_left_iff.1 hnil
    use b, e, hb, completes_of_ofWorld hb ho
    intro k sim hsim x
    have hrecords := hcourse.records hsim
    rw [hschedule] at hrecords
    obtain ⟨-, hshows⟩ := loops_benchAt hvalid ha hforce j (dt_of_fault? ho).2 e
      (dynamicsOf w.physics) k
    refine ⟨hcourse.isJoint hsim, hcourse.time hsim, ?_, ?_, ?_⟩
    · rw [Store.axis?_eq_of_records? hrecords, hshows.force]
    · rw [Store.axis?_eq_of_records? hrecords, hshows.velocity]
    · rw [Store.get?_eq_of_records? hrecords, hshows.untold]

/-- A world with the joint `elbow`, which a regulator brings to the velocity two. -/
def regulatedElbow : World where
  version := 1
  name := "bench"
  models := [{
    name := "arm"
    joints := [{ name := "elbow" }]
    plugins := [{
      kind := .jointController
      params := .ofList [("joint_name", .text "elbow"), ("use_force_commands", .bool true),
        ("initial_velocity", .float 2)] }] }]

/-- The first tick of a run applies a force to the regulated joint, and it moves. -/
theorem closedLoop_force_regulatedElbow :
  ∃ b e sim, ofWorld regulatedElbow = .ok b
    ∧ b.simulation.stateAfter? {} b.schedule 1 = some sim
    ∧ sim.store.IsJoint "arm" "elbow" e
    ∧ sim.store.axis? e .forceCommand = some (-2)
    ∧ sim.store.axis? e .velocity = some (-0.002)
  := by
  obtain ⟨m, hm⟩ : ∃ m, regulatedElbow.models = [m] := ⟨_, rfl⟩
  have hmem : m ∈ regulatedElbow.models := by simp [hm]
  have hdriving : m.driving "elbow"
      = [{ joint := "elbow", initialVelocity := 2, mode := .force }] := by
    cases hm
    decide +kernel
  have hruns : ((ofWorld regulatedElbow).toOption.bind fun b =>
      b.simulation.stateAfter? {} b.schedule 1).isSome = true := by
    set_option maxRecDepth 10000 in
    decide +kernel
  cases hm
  rcases closedLoop_force (by decide +kernel) (o := {}) (by decide +kernel) hmem
    List.mem_cons_self hdriving rfl with ⟨hsize, -⟩ | ⟨b, e, hb, -, hafter⟩
  · exact absurd hsize (by decide +kernel)
  · rw [hb] at hruns
    obtain ⟨sim, hsim⟩ := Option.isSome_iff_exists.1 hruns
    obtain ⟨hjoint, -, hforce, hvelocity, -⟩ := hafter 0 sim hsim
    refine ⟨b, e, sim, hb, hsim, (hjoint e).2 rfl, ?_, ?_⟩
    · rw [hforce]
      decide +kernel
    · rw [hvelocity]
      decide +kernel

end Servo.Simulation
