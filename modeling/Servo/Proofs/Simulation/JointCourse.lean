import Servo.Proofs.Simulation.Layout
import Servo.Proofs.Simulation.SetPoint

/-!
# The course of a joint

What becomes of a joint of a world in a run is told by its bench alone: every joint of what
is built has such a course (`jointCourse_of_ofWorld`), and the run ends without failure
(`completes_of_ofWorld`).
-/

namespace Servo

theorem Store.SameOutline.isJoint_iff {s t : Store} (h : s.SameOutline t)
    {model joint : String} {e : Entity} :
  t.IsJoint model joint e ↔ s.IsJoint model joint e
  := by
  apply exists_congr
  intro owner
  rw [h.record owner (a := .model) nofun, h.record owner (a := .name) nofun, h.hasJoint_iff]

namespace Simulation

open Controller

/-- The dynamics that the physics of a world give. -/
def dynamicsOf (p : World.Physics) : Dynamics Float := ⟨p.inertia, p.damping⟩

/-- What is built from a world mirrors the models of the world, which is valid, and has the
commands of the world. -/
structure Built.Mirrors (b : Built) (w : World) (sites : List Site) (cs : List Controller) :
    Prop where
  valid : w.Valid
  schedule : b.schedule = Simulation.schedule w.commands
  models : sites.map (·.model) = w.models
  simulation : b.simulation.Mirrors (dynamicsOf w.physics) sites cs

/-- What is built from a world mirrors it. -/
theorem mirrors_of_ofWorld {w : World} {b : Built} (hb : ofWorld w = .ok b) :
  ∃ sites cs, b.Mirrors w sites cs
  := by
  obtain ⟨hw, hschedule, sites, cs, hsites, hmirrors⟩ := ofWorld_eq_ok hb
  exact ⟨sites, cs, hw, hschedule, hsites, hmirrors⟩

/-- The run of what is built succeeds, and it ends after its last tick. -/
def Built.Completes (b : Built) (o : Options) : Prop :=
  (∃ samples, (b.simulation.run o b.schedule).result = .ok samples)
    ∧ ∃ n, b.simulation.stateAfter? o b.schedule n
        = some (b.simulation.run o b.schedule).simulation
      ∧ b.simulation.stateAfter? o b.schedule (n + 1) = none

/-- The joint `j` of the model `m` is the entity `e` throughout a run.  Its drivers are set up
with the configurations of the plugins that drive it, and after every tick it has the records
of its bench. -/
structure JointCourse (w : World) (b : Built) (o : Options) (m : World.Model)
    (j : World.Joint) (e owner : Entity) (drivers : List Active) : Prop where
  installed : List.Forall₂ (Installed b.simulation.network owner m.name) (m.driving j.name)
    drivers
  isJoint : ∀ {k sim}, b.simulation.stateAfter? o b.schedule k = some sim →
    ∀ e', sim.store.IsJoint m.name j.name e' ↔ e' = e
  time : ∀ {k sim}, b.simulation.stateAfter? o b.schedule k = some sim →
    sim.clock.time = tickTime o.dt k
  records : ∀ {k sim}, b.simulation.stateAfter? o b.schedule k = some sim →
    sim.store.records? e = some (benchAt e (dynamicsOf w.physics) o.dt b.simulation.network
      b.schedule ⟨drivers, jointRecords owner j⟩ k).records

namespace Built.Mirrors

variable {w : World} {b : Built} {sites : List Site} {cs : List Controller} {o : Options}

theorem addressed (h : b.Mirrors w sites cs) :
  Addressed b.schedule
  := by
  rw [h.schedule]
  apply addressed_schedule h.valid

theorem numeric (h : b.Mirrors w sites cs) :
  Numeric b.schedule
  := by
  rw [h.schedule]
  apply numeric_schedule h.valid

theorem startTime (h : b.Mirrors w sites cs) (dt : Float) (k : Nat) :
  b.simulation.startTime dt k = tickTime dt k
  := startTime_eq_tickTime h.simulation.rigged h.simulation.time dt k

/-- The run goes through stages. -/
theorem stage (h : b.Mirrors w sites cs) (ho : o.fault? = none) {k : Nat} {sim : Simulation}
    (hsim : b.simulation.stateAfter? o b.schedule k = some sim) :
  ∃ q : Progress, sim = q.simulation
    ∧ Stage b.simulation cs (dynamicsOf w.physics) o.dt b.schedule k q
  := by
  obtain ⟨q, hq, rfl⟩ := Option.map_eq_some_iff.1 hsim
  exact ⟨q, rfl, stage_of_after? h.simulation.rigged h.simulation.time ho h.addressed hq⟩

/-- Every joint of a site has its course. -/
theorem jointCourse (h : b.Mirrors w sites cs) (ho : o.fault? = none) {x : Site} (hx : x ∈ sites)
    {p : Entity × World.Joint} (hp : p ∈ x.joints) :
  JointCourse w b o x.model p.2 p.1 x.entity (Controller.drivers b.simulation.store p.1 cs)
  := by
  have hbench : b.simulation.OnBench cs p.1
      ⟨Controller.drivers b.simulation.store p.1 cs, jointRecords x.entity p.2⟩ :=
    ⟨rfl, h.simulation.records?_joint hx hp, rfl⟩
  constructor
  case installed => apply h.simulation.drivers h.valid h.models hx hp
  case isJoint =>
    intro k sim hsim e'
    obtain ⟨q, rfl, hq⟩ := h.stage ho hsim
    rw [hq.outline.isJoint_iff, h.simulation.isJoint_iff h.valid h.models hx hp]
  case time =>
    intro k sim hsim
    obtain ⟨q, rfl, hq⟩ := h.stage ho hsim
    apply hq.time
  case records =>
    intro k sim hsim
    obtain ⟨q, rfl, hq⟩ := h.stage ho hsim
    obtain ⟨cs', -, hbenches⟩ := hq.benches
    apply (hbenches hbench).records

end Built.Mirrors

/-- Every joint of what is built has its course. -/
theorem jointCourse_of_ofWorld {w : World} {b : Built} (hb : ofWorld w = .ok b) {o : Options}
    (ho : o.fault? = none) {m : World.Model} (hm : m ∈ w.models) {j : World.Joint}
    (hj : j ∈ m.joints) :
  ∃ e owner drivers, JointCourse w b o m j e owner drivers
  := by
  obtain ⟨sites, cs, hmirrors⟩ := mirrors_of_ofWorld hb
  rw [← hmirrors.models] at hm
  obtain ⟨x, hx, rfl⟩ := List.mem_map.1 hm
  rw [← x.listed] at hj
  obtain ⟨p, hp, rfl⟩ := List.mem_map.1 hj
  exact ⟨p.1, x.entity, _, hmirrors.jointCourse ho hx hp⟩

/-- The run of what is built from a world ends without failure. -/
theorem completes_of_ofWorld {w : World} {b : Built} (hb : ofWorld w = .ok b) {o : Options}
    (ho : o.fault? = none) :
  b.Completes o
  := by
  obtain ⟨sites, cs, hmirrors⟩ := mirrors_of_ofWorld hb
  apply run_of_rigged hmirrors.simulation.rigged hmirrors.simulation.time ho hmirrors.addressed

end Simulation

end Servo
