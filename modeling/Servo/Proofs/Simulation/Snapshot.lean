import Servo.Proofs.Simulation.JointCourse

/-!
# Snapshots of a world

A `Replica` is a joint outside of any simulation, with what its controllers do with their
set-points.  What a run records of a joint can be told from its replica (`World.sampleAt`), that
is, from the physics and the commands of the world, the name of the model and the plugins that
drive the joint: `Built.Mirrors.snapshot_eq` says that a snapshot has the samples of the joints
one model after the other.
-/

namespace Servo

namespace Simulation

open Controller

/-! ### The owner of a joint -/

/-- The records of a joint that a model owns. -/
def ownedBy (owner : Entity) (r : Records) : Records := { r with parent := some owner }

/-- The quantities of a joint do not depend on its owner. -/
@[simp]
theorem get?_ownedBy (owner : Entity) (r : Records) (q : Quantity) :
  (ownedBy owner r).get? (.axes q) = r.get? (.axes q)
  := by
  cases q <;> rfl

@[simp]
theorem axis?_ownedBy (owner : Entity) (r : Records) (q : Quantity) :
  (ownedBy owner r).axis? q = r.axis? q
  := by
  rw [Records.axis?, get?_ownedBy, Records.axis?]

@[simp]
theorem setAxis_ownedBy (owner : Entity) (r : Records) (q : Quantity) (v : Float) :
  (ownedBy owner r).setAxis q v = ownedBy owner (r.setAxis q v)
  := by
  cases q <;> rfl

@[simp]
theorem withVelocityRecord_ownedBy (owner : Entity) (r : Records) :
  withVelocityRecord (ownedBy owner r) = ownedBy owner (withVelocityRecord r)
  := by
  rw [withVelocityRecord, withVelocityRecord, get?_ownedBy]
  split <;> rfl

/-- Driving a joint keeps its owner, and what is done does not depend on the owner. -/
theorem driven_ownedBy (a : Actuation) (owner : Entity) (r : Records) (target dt : Float) :
  (a.driven (ownedBy owner r) target dt).actuation = (a.driven r target dt).actuation
    ∧ (a.driven (ownedBy owner r) target dt).records
      = ownedBy owner (a.driven r target dt).records
  := by
  cases a with
  | velocity => simp [Actuation.driven]
  | force g =>
    simp only [Actuation.driven, withVelocityRecord_ownedBy, axis?_ownedBy]
    split
    · exact ⟨rfl, rfl⟩
    · simp

/-- Moving a joint keeps its owner, and the move does not depend on the owner. -/
theorem moved_ownedBy (d : Dynamics Float) (dt : Float) (owner : Entity) (r : Records) :
  d.moved dt (ownedBy owner r) = ownedBy owner (d.moved dt r)
  := by
  rw [Dynamics.moved, Dynamics.moved, axis?_ownedBy, axis?_ownedBy, axis?_ownedBy]
  split
  · apply setAxis_ownedBy
  · rfl

/-! ### Replicas -/

/-- What becomes of actuations and the records of their joint when each of them drives it once
towards a set-point of its own. -/
def driveEach (dt : Float) : List (Actuation × Float) → Records → List Actuation × Records
  | [], r => ([], r)
  | (a, target) :: rest, r =>
    let d := a.driven r target dt
    let later := driveEach dt rest d.records
    (d.actuation :: later.1, later.2)

/-- The drivers of a joint do what their actuations do with the set-points in their inboxes. -/
theorem driveAll_ownedBy (joint owner : Entity) (b : Inboxes) (dt : Float)
    (drivers : List Active) (r : Records) :
  let driven := driveAll joint b dt drivers (ownedBy owner r)
  let replica := driveEach dt (drivers.map fun a => (a.actuation, b.read a.inbox)) r
  driven.1.map (·.actuation) = replica.1 ∧ driven.1.map (·.inbox) = drivers.map (·.inbox)
    ∧ driven.2 = ownedBy owner replica.2
  := by
  induction drivers generalizing r with
  | nil => exact ⟨rfl, rfl, rfl⟩
  | cons a rest ih =>
    obtain ⟨hactuation, hrecords⟩ := driven_ownedBy a.actuation owner r (b.read a.inbox) dt
    obtain ⟨hactuations, hinboxes, hlater⟩ :=
      ih (a.actuation.driven r (b.read a.inbox) dt).records
    simp only [driveAll, driveEach, List.map_cons, hactuation, hrecords, Active.afterDrive]
    exact ⟨congrArg (_ :: ·) hactuations, congrArg (_ :: ·) hinboxes, hlater⟩

/-- A joint outside of any simulation: what its controllers do with their set-points, and its
records without an owner. -/
structure Replica where
  actuations : List Actuation
  records : Records

namespace Replica

/-- The replica of a joint with given set-points after a tick. -/
def tick (d : Dynamics Float) (dt : Float) (x : Replica) (targets : List Float) : Replica :=
  let driven := driveEach dt (x.actuations.zip targets) x.records
  ⟨driven.1, d.moved dt driven.2⟩

/-- The replica of a joint after some ticks; the set-points of the tick number `k + 1` are
`targets k`. -/
def after (d : Dynamics Float) (dt : Float) (targets : Nat → List Float) (x : Replica) :
    Nat → Replica
  | 0 => x
  | k + 1 => (after d dt targets x k).tick d dt (targets k)

/-- The replica of a joint at the start, with controllers of given configurations. -/
def start (j : World.Joint) (configs : List Config) : Replica where
  actuations := configs.map Actuation.ofConfig
  records := {
    name := some j.name
    joint := some ()
    velocity := j.initialVelocity.map ([·]) }

end Replica

/-- A bench is a copy of a replica: it has the same records besides the owner, and its drivers
have the actuations of the replica and the given inboxes. -/
structure Bench.Copies (y : Bench) (owner : Entity) (inboxes : List Inbox) (x : Replica) :
    Prop where
  actuations : y.drivers.map (·.actuation) = x.actuations
  inboxes : y.drivers.map (·.inbox) = inboxes
  records : y.records = ownedBy owner x.records

/-- A tick of a bench is one of the replica. -/
theorem Bench.Copies.tick {y : Bench} {owner : Entity} {inboxes : List Inbox} {x : Replica}
    (h : y.Copies owner inboxes x) (joint : Entity) (d : Dynamics Float) (dt : Float)
    (b : Inboxes) :
  (y.tick joint d dt b).Copies owner inboxes (x.tick d dt (inboxes.map b.read))
  := by
  have hpairs : y.drivers.map (fun a => (a.actuation, b.read a.inbox))
      = x.actuations.zip (inboxes.map b.read) := by
    rw [← h.actuations, ← h.inboxes, List.map_map, List.zip_map']
    rfl
  obtain ⟨hactuations, hinboxes, hrecords⟩ :=
    driveAll_ownedBy joint owner b dt y.drivers x.records
  rw [hpairs] at hactuations hrecords
  rw [← h.records] at hactuations hinboxes hrecords
  constructor
  case actuations => apply hactuations
  case inboxes => apply hinboxes.trans h.inboxes
  case records =>
    rw [Bench.tick, Replica.tick]
    simp only [hrecords, moved_ownedBy]

/-- The bench of a joint starts as a copy of the replica of the joint. -/
theorem copies_start {n : Network} {owner : Entity} {name : String} {configs : List Config}
    {drivers : List Active} (h : List.Forall₂ (Installed n owner name) configs drivers)
    (j : World.Joint) :
  Bench.Copies ⟨drivers, jointRecords owner j⟩ owner (drivers.map (·.inbox))
    (Replica.start j configs)
  := by
  constructor
  case actuations =>
    rw [Replica.start]
    induction h with
    | nil => rfl
    | cons ha _ ih => rw [List.map_cons, List.map_cons, ih, ha.actuation]
  case inboxes => rfl
  case records => rfl

end Simulation

open Simulation

/-! ### Samples -/

/-- The set-points at a time of the controllers that drive a joint of a model. -/
def World.setPoints (w : World) (m : World.Model) (j : World.Joint) (now : Float) : List Float :=
  (m.driving j.name).map (w.setPoint m.name · now)

/-- The replica of a joint of a model after some ticks of the length `dt`. -/
def World.replicaAt (w : World) (m : World.Model) (j : World.Joint) (dt : Float) (k : Nat) :
    Replica :=
  (Replica.start j (m.driving j.name)).after (dynamicsOf w.physics) dt
    (fun i => w.setPoints m j (tickTime dt i)) k

/-- The sample of a joint of a model after some ticks of the length `dt`. -/
def World.sampleAt (w : World) (m : World.Model) (dt : Float) (k : Nat) (j : World.Joint) :
    Sample where
  time := tickTime dt k
  joint := m.name ++ "/" ++ j.name
  velocity := (w.replicaAt m j dt k).records.axis? .velocity
  velocityCommand := (w.replicaAt m j dt k).records.axis? .velocityCommand
  forceCommand := (w.replicaAt m j dt k).records.axis? .forceCommand

/-- The name of the model that owns an entity. -/
def Store.ownerName? (s : Store) (e : Entity) : Option String := (s.get? e .parent).bind s.name?

namespace Simulation

open Controller

/-- The set-points in the inboxes before a tick are those of the configurations. -/
theorem map_read_heard {w : World} (hw : w.Valid) {n : Network} {owner : Entity}
    {m : World.Model} {j : World.Joint} {drivers : List Active}
    (h : List.Forall₂ (Installed n owner m.name) (m.driving j.name) drivers) (dt : Float)
    (k : Nat) :
  let b := (published n (heard dt (schedule w.commands) (k + 1))).inboxes
  (drivers.map (·.inbox)).map b.read = w.setPoints m j (tickTime dt k)
  := by
  intro b
  rw [World.setPoints]
  generalize m.driving j.name = configs at h
  induction h with
  | nil => rfl
  | cons ha _ ih =>
    rw [List.map_cons, List.map_cons, List.map_cons, ih, ← read_heard hw ha dt k]

/-- After every tick the bench of a joint is a copy of the replica of the joint. -/
theorem copies_benchAt {w : World} (hw : w.Valid) {n : Network} {owner : Entity}
    {m : World.Model} {j : World.Joint} {drivers : List Active}
    (h : List.Forall₂ (Installed n owner m.name) (m.driving j.name) drivers) (e : Entity)
    (dt : Float) (k : Nat) :
  (benchAt e (dynamicsOf w.physics) dt n (schedule w.commands) ⟨drivers, jointRecords owner j⟩
    k).Copies owner (drivers.map (·.inbox)) (w.replicaAt m j dt k)
  := by
  induction k with
  | zero => apply copies_start h
  | succ k ih =>
    have htick := ih.tick e (dynamicsOf w.physics) dt
      (published n (heard dt (schedule w.commands) (k + 1))).inboxes
    rw [map_read_heard hw h dt k] at htick
    apply htick

/-- A joint that is known by the names of its model and of itself has these names in its label. -/
theorem label_of_isJoint {s : Store} {model joint : String} {e : Entity}
    (h : s.IsJoint model joint e) :
  Sample.label s e = model ++ "/" ++ joint ∧ s.ownerName? e = some model
  := by
  obtain ⟨owner, -, hname, hjoint⟩ := h
  constructor
  · simp only [Sample.label, hjoint.parent, Sample.nameOf, hname, hjoint.name, Option.getD_some]
  · rw [Store.ownerName?, hjoint.parent, Option.bind_some, Store.name?, hname]

/-- A sample of a joint in a run is that of its replica. -/
theorem JointCourse.ofJoint_eq {w : World} {b : Built} {o : Options} {m : World.Model}
    {j : World.Joint} {e owner : Entity} {drivers : List Active}
    (h : JointCourse w b o m j e owner drivers) (hw : w.Valid)
    (hschedule : b.schedule = schedule w.commands) {k : Nat} {sim : Simulation}
    (hsim : b.simulation.stateAfter? o b.schedule k = some sim) :
  Sample.ofJoint sim.store sim.clock.time e = w.sampleAt m o.dt k j
    ∧ sim.store.ownerName? e = some m.name
  := by
  obtain ⟨hlabel, hname⟩ := label_of_isJoint ((h.isJoint hsim e).2 rfl)
  have hrecords := h.records hsim
  rw [hschedule, (copies_benchAt hw h.installed e o.dt k).records] at hrecords
  have haxis : ∀ q, sim.store.axis? e q = (w.replicaAt m j o.dt k).records.axis? q := by
    intro q
    rw [Store.axis?_eq_of_records? hrecords, axis?_ownedBy]
  refine ⟨?_, hname⟩
  rw [Sample.ofJoint, World.sampleAt, hlabel, h.time hsim, haxis, haxis, haxis]

/-! ### Snapshots -/

/-- The states of the joints of all models but those with a given name. -/
def snapshotWithout (sim : Simulation) (model : String) : List Sample :=
  ((sim.store.withAttribute .joint).filter fun e => sim.store.ownerName? e ≠ some model).map
    (Sample.ofJoint sim.store sim.clock.time)

/-- The joints of a simulation that mirrors some sites are those of the sites. -/
theorem Mirrors.withAttribute_joint {sim : Simulation} {d : Dynamics Float} {sites : List Site}
    {cs : List Controller} (h : sim.Mirrors d sites cs) :
  sim.store.withAttribute .joint = sites.flatMap fun x => x.joints.map (·.1)
  := by
  rw [Store.withAttribute, h.entries, List.filter_flatMap, List.map_flatMap]
  congr 1
  funext x
  have hall : x.jointEntries.filter (fun p => (p.2.get? .joint).isSome) = x.jointEntries := by
    rw [List.filter_eq_self]
    intro p hp
    obtain ⟨q, -, rfl⟩ := List.mem_map.1 hp
    rfl
  rw [Site.entries, List.filter_cons_of_neg (by simp [modelRecords, Records.get?]), hall,
    Site.jointEntries, List.map_map]
  rfl

/-- Elements that are left out come to nothing. -/
theorem flatMap_filter {α β : Type} (p : α → Bool) (f : α → List β) (l : List α) :
  (l.filter p).flatMap f = l.flatMap fun a => if p a then f a else []
  := by
  induction l with
  | nil => rfl
  | cons a rest ih =>
    rw [List.flatMap_cons, ← ih]
    cases hp : p a with
    | false => rw [List.filter_cons_of_neg (by simp [hp])]; rfl
    | true => rw [List.filter_cons_of_pos hp, List.flatMap_cons]; rfl

/-- In a run the samples of the joints are those of the replicas, one model after the other, and
they may be restricted to some of the models. -/
theorem Built.Mirrors.map_joints {w : World} {b : Built} {sites : List Site}
    {cs : List Controller} (h : b.Mirrors w sites cs) {o : Options} (ho : o.fault? = none)
    {k : Nat} {sim : Simulation} (hsim : b.simulation.stateAfter? o b.schedule k = some sim)
    (keep : Option String → Bool) :
  ((sim.store.withAttribute .joint).filter fun e => keep (sim.store.ownerName? e)).map
      (Sample.ofJoint sim.store sim.clock.time)
    = (w.models.filter fun m => keep m.name).flatMap
      fun m => m.joints.map (w.sampleAt m o.dt k)
  := by
  obtain ⟨q, rfl, hstage⟩ := h.stage ho hsim
  have hsite : ∀ x ∈ sites, ((x.joints.map (·.1)).filter
        fun e => keep (q.simulation.store.ownerName? e)).map
          (Sample.ofJoint q.simulation.store q.simulation.clock.time)
      = if keep x.model.name then x.model.joints.map (w.sampleAt x.model o.dt k) else [] := by
    intro x hx
    have hjoint : ∀ p ∈ x.joints, _ := fun p hp =>
      (h.jointCourse ho hx hp).ofJoint_eq h.valid h.schedule hsim
    have howner : (x.joints.map (·.1)).filter
          (fun e => keep (q.simulation.store.ownerName? e))
        = (x.joints.map (·.1)).filter fun _ => keep x.model.name := by
      apply List.filter_congr
      intro e he
      obtain ⟨p, hp, rfl⟩ := List.mem_map.1 he
      rw [(hjoint p hp).2]
    rw [howner]
    cases keep x.model.name with
    | false => simp
    | true =>
      rw [List.filter_true, List.map_map, if_pos rfl, ← x.listed, List.map_map]
      apply List.map_congr_left
      intro p hp
      apply (hjoint p hp).1
  have hjoints := hstage.outline.withAttribute (a := .joint) nofun
  rw [hjoints, h.simulation.withAttribute_joint, List.filter_flatMap, List.map_flatMap,
    List.flatMap_congr hsite, ← h.models, List.filter_map, List.flatMap_map, flatMap_filter]
  rfl

/-- A snapshot in a run has the samples of all joints, one model after the other. -/
theorem Built.Mirrors.snapshot_eq {w : World} {b : Built} {sites : List Site}
    {cs : List Controller} (h : b.Mirrors w sites cs) {o : Options} (ho : o.fault? = none)
    {k : Nat} {sim : Simulation} (hsim : b.simulation.stateAfter? o b.schedule k = some sim) :
  sim.snapshot = w.models.flatMap fun m => m.joints.map (w.sampleAt m o.dt k)
  := by
  have hall := h.map_joints ho hsim fun _ => true
  rw [List.filter_true, List.filter_true] at hall
  apply hall

end Simulation

end Servo
