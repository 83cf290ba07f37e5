import Servo.Proofs.Simulation.Capacity
import Servo.Proofs.Simulation.JointCourse

/-!
# Tracking a velocity

Of the controllers that tell a joint its velocity only the last one counts (`told?`), whatever
controllers with regulators there are, and a joint without controllers is left alone.
`tracks_velocity` says so of every run of every world.
-/

namespace Servo.Simulation

open Controller

/-! ### Who tells a joint its velocity -/

/-- The inbox with the velocity that a joint is told: the one of its last driver in velocity
mode, if there is one. -/
def told? (drivers : List Active) : Option Inbox :=
  ((drivers.filter (·.actuation.mode = .velocity)).map (·.inbox)).getLast?

/-- Driving a joint changes no mode, and the joint is told a velocity only in velocity mode. -/
theorem driven_mode (a : Actuation) (r : Records) (target dt : Float) :
  (a.driven r target dt).actuation.mode = a.mode
    ∧ (a.driven r target dt).records.axis? .velocityCommand
      = if a.mode = .velocity then some target else r.axis? .velocityCommand
  := by
  cases a with
  | velocity =>
    use rfl
    rw [Actuation.driven, Records.axis?_setAxis_self]
    rfl
  | force g =>
    rw [if_neg (by simp [Actuation.mode])]
    simp only [Actuation.driven]
    cases (withVelocityRecord r).axis? .velocity with
    | none => exact ⟨rfl, rfl⟩
    | some observed =>
      use rfl
      rw [Records.axis?_setAxis_of_ne (by decide), Records.axis?, Records.axis?,
        get?_withVelocityRecord_of_ne (by decide)]

/-- The first driver tells a joint its velocity if no later one does. -/
theorem told?_cons (a : Active) (rest : List Active) :
  told? (a :: rest)
    = (told? rest).or (if a.actuation.mode = .velocity then some a.inbox else none)
  := by
  rw [told?, told?]
  by_cases h : a.actuation.mode = .velocity
  · rw [List.filter_cons_of_pos (by simp [h]), List.map_cons, List.getLast?_cons, if_pos h]
    cases List.getLast? _ <;> rfl
  · rw [List.filter_cons_of_neg (by simp [h]), if_neg h, Option.or_none]

/-- After its drivers worked a joint is told its velocity by the same one. -/
theorem told?_driveAll (joint : Entity) (b : Inboxes) (dt : Float) (drivers : List Active)
    (r : Records) :
  told? (driveAll joint b dt drivers r).1 = told? drivers
  := by
  induction drivers generalizing r with
  | nil => rfl
  | cons a rest ih =>
    obtain ⟨hmode, -⟩ := driven_mode a.actuation r (b.read a.inbox) dt
    rw [driveAll, told?_cons, told?_cons, ih]
    simp only [Active.afterDrive, hmode]
    rfl

/-- The drivers leave the velocity that the last of them in velocity mode tells. -/
theorem velocityCommand_driveAll (joint : Entity) (b : Inboxes) (dt : Float)
    (drivers : List Active) (r : Records) :
  (driveAll joint b dt drivers r).2.axis? .velocityCommand
    = ((told? drivers).map b.read).or (r.axis? .velocityCommand)
  := by
  induction drivers generalizing r with
  | nil => rfl
  | cons a rest ih =>
    obtain ⟨-, hcommand⟩ := driven_mode a.actuation r (b.read a.inbox) dt
    rw [driveAll, ih, hcommand, told?_cons]
    cases told? rest with
    | some i => rfl
    | none => split <;> rfl

/-- The last configuration in velocity mode is that of the controller that tells a joint its
velocity. -/
theorem told?_of_installed {n : Network} {owner : Entity} {name : String}
    {configs : List Config} {drivers : List Active}
    (h : List.Forall₂ (Installed n owner name) configs drivers) {c : Config}
    (hc : (configs.filter (·.mode = .velocity)).getLast? = some c) :
  ∃ a, told? drivers = some a.inbox ∧ Installed n owner name c a
  := by
  have hmode : ∀ {c a}, Installed n owner name c a →
      (c.mode = .velocity ↔ a.actuation.mode = .velocity) := by
    intro c a ha
    rw [ha.actuation, Actuation.ofConfig]
    cases c.mode <;> simp [Actuation.mode]
  have hfilter : List.Forall₂ (Installed n owner name) (configs.filter (·.mode = .velocity))
      (drivers.filter (·.actuation.mode = .velocity)) := by
    apply List.rel_filter _ h
    intro c a ha
    simp only [decide_eq_true_iff]
    apply hmode ha
  obtain ⟨earlier, hsplit⟩ := List.getLast?_eq_some_iff.1 hc
  rw [hsplit, ← List.forall₂_reverse_iff, List.reverse_append] at hfilter
  obtain ⟨a, rest, ha, -, hreverse⟩ := List.forall₂_cons_left_iff.1 hfilter
  refine ⟨a, ?_, ha⟩
  rw [told?, List.getLast?_map, List.getLast?_eq_head?_reverse, hreverse]
  rfl

/-! ### Benches -/

/-- After a tick a joint has the velocity that it is told. -/
theorem Bench.tick_of_told {y : Bench} {i : Inbox} (h : told? y.drivers = some i)
    (joint : Entity) (d : Dynamics Float) (dt : Float) (b : Inboxes) :
  told? (y.tick joint d dt b).drivers = some i
    ∧ (y.tick joint d dt b).records.axis? .velocityCommand = some (b.read i)
    ∧ (y.tick joint d dt b).records.axis? .velocity = some (b.read i)
  := by
  have hcommand := velocityCommand_driveAll joint b dt y.drivers y.records
  rw [h, Option.map_some, Option.some_or] at hcommand
  refine ⟨?_, ?_, ?_⟩
  · apply (told?_driveAll joint b dt y.drivers y.records).trans h
  · rw [Bench.tick, Records.axis?, Dynamics.get?_moved (by decide)]
    apply hcommand
  · apply Dynamics.axis?_moved_of_velocityCommand hcommand d dt

/-- After some ticks a joint has the set-point of the controller that tells it its velocity. -/
theorem benchAt_of_told {w : World} (hw : w.Valid) {n : Network} {owner : Entity}
    {m : World.Model} {c : Config} {a : Active} (ha : Installed n owner m.name c a)
    {x : Bench} (hx : told? x.drivers = some a.inbox) (e : Entity) (d : Dynamics Float)
    (dt : Float) (k : Nat) :
  let y := benchAt e d dt n (schedule w.commands) x
  told? (y k).drivers = some a.inbox
    ∧ (y (k + 1)).records.axis? .velocityCommand = some (w.setPoint m.name c (tickTime dt k))
    ∧ (y (k + 1)).records.axis? .velocity = some (w.setPoint m.name c (tickTime dt k))
  := by
  intro y
  have htold : ∀ k, told? (y k).drivers = some a.inbox := by
    intro k
    induction k with
    | zero => apply hx
    | succ k ih => apply (Bench.tick_of_told ih e d dt _).1
  have htick := (Bench.tick_of_told (htold k) e d dt
    (published n (heard dt (schedule w.commands) (k + 1))).inboxes).2
  rw [read_heard hw ha dt k] at htick
  exact ⟨htold k, htick⟩

/-- A joint without drivers and without commands is left alone. -/
theorem benchAt_of_idle {x : Bench} (hdrivers : x.drivers = [])
    (hvelocity : x.records.axis? .velocityCommand = none)
    (hforce : x.records.axis? .forceCommand = none) (e : Entity) (d : Dynamics Float)
    (dt : Float) (n : Network) (commands : List Scheduled) (k : Nat) :
  benchAt e d dt n commands x k = x
  := by
  induction k with
  | zero => rfl
  | succ k ih =>
    obtain ⟨drivers, records⟩ := x
    cases hdrivers
    rw [benchAt, ih, Bench.tick]
    simp only [driveAll, Dynamics.moved_of_idle hvelocity hforce]

/-! ### Runs -/

/-- In every run a joint has the set-point of the last controller in velocity mode after every
tick, and a joint without controllers keeps its records.  A world without that run is one that
needs more entities than there are. -/
theorem tracks_velocity {w : World} (hw : w.fault? = none) {o : Options}
    (ho : o.fault? = none) {m : World.Model} (hm : m ∈ w.models) {j : World.Joint}
    (hj : j ∈ m.joints) :
  (Entity.capacity < w.size ∧ ofWorld w = .error (.store .exhausted))
    ∨ ∃ b e, ofWorld w = .ok b ∧ b.Completes o
      ∧ (∀ k sim, b.simulation.stateAfter? o b.schedule k = some sim →
        ∀ e', sim.store.IsJoint m.name j.name e' ↔ e' = e)
      ∧ (∀ c, ((m.driving j.name).filter (·.mode = .velocity)).getLast? = some c →
        ∀ k sim, b.simulation.stateAfter? o b.schedule (k + 1) = some sim →
          let u := w.setPoint m.name c (tickTime o.dt k)
          sim.clock.time = tickTime o.dt (k + 1)
            ∧ sim.store.axis? e .velocityCommand = some u
            ∧ sim.store.axis? e .velocity = some u)
      ∧ (m.driving j.name = [] →
        ∀ k sim, b.simulation.stateAfter? o b.schedule k = some sim →
          sim.store.records? e = b.simulation.store.records? e)
  := by
  have hvalid := World.fault?_eq_none_iff.1 hw
  rcases ofWorld_of_valid hvalid with hfull | ⟨b, hb⟩
  · exact .inl hfull
  right
  obtain ⟨-, hschedule, -⟩ := ofWorld_eq_ok hb
  obtain ⟨e, owner, drivers, hcourse⟩ := jointCourse_of_ofWorld hb ho hm hj
  refine ⟨b, e, hb, completes_of_ofWorld hb ho, fun k sim => hcourse.isJoint, ?_, ?_⟩
  · intro c hc k sim hsim u
    obtain ⟨a, htold, ha⟩ := told?_of_installed hcourse.installed hc
    have hrecords := hcourse.records hsim
    rw [hschedule] at hrecords
    obtain ⟨-, hcommand, hvelocity⟩ := benchAt_of_told hvalid ha
      (x := ⟨drivers, jointRecords owner j⟩) htold e (dynamicsOf w.physics) o.dt k
    refine ⟨hcourse.time hsim, ?_, ?_⟩
    · rw [Store.axis?_eq_of_records? hrecords, hcommand]
    · rw [Store.axis?_eq_of_records? hrecords, hvelocity]
  · intro hnone k sim hsim
    have hinstalled := hcourse.installed
    rw [hnone] at hinstalled
    obtain rfl := List.forall₂_nil_left_iff.1 hinstalled
    have hstart : b.simulation.store.records? e = some (jointRecords owner j) :=
      hcourse.records (k := 0) rfl
    rw [hcourse.records hsim, benchAt_of_idle rfl rfl rfl, hstart]

/-- A world with two joints.  Two controllers tell `elbow` a velocity, and between them is one
with a regulator; `wrist` has no controller. -/
def toldElbow : World where
  version := 1
  name := "bench"
  models := [{
    name := "arm"
    joints := [{ name := "elbow" }, { name := "wrist", initialVelocity := some 1 }]
    plugins := [
      { kind := .jointController
        params := .ofList [("joint_name", .text "elbow"), ("initial_velocity", .float 3)] },
      { kind := .jointController
        params := .ofList [("joint_name", .text "elbow"), ("use_force_commands", .bool true)] },
      { kind := .jointController
        params := .ofList [("joint_name", .text "elbow"), ("topic", .text "/go")] }] }]
  commands := [⟨0, "go", 5⟩]

/-- After the first tick of a run the command has reached `elbow`, and `wrist` is as it was. -/
theorem tracks_velocity_toldElbow :
  ∃ b elbow wrist sim, ofWorld toldElbow = .ok b
    ∧ b.simulation.stateAfter? {} b.schedule 1 = some sim
    ∧ sim.store.IsJoint "arm" "elbow" elbow ∧ sim.store.axis? elbow .velocity = some 5
    ∧ sim.store.IsJoint "arm" "wrist" wrist
    ∧ sim.store.records? wrist = b.simulation.store.records? wrist
  := by
  obtain ⟨m, hm⟩ : ∃ m, toldElbow.models = [m] := ⟨_, rfl⟩
  have hmem : m ∈ toldElbow.models := by simp [hm]
  have hlast : ((m.driving "elbow").filter (·.mode = .velocity)).getLast?
      = some { joint := "elbow", topic := some "/go" } := by
    cases hm
    decide +kernel
  have hidle : m.driving "wrist" = [] := by
    cases hm
    decide +kernel
  have hruns : ((ofWorld toldElbow).toOption.bind fun b =>
      b.simulation.stateAfter? {} b.schedule 1).isSome = true := by
    set_option maxRecDepth 10000 in
    decide +kernel
  have hsize : ¬ Entity.capacity < toldElbow.size := by decide +kernel
  cases hm
  have htracks := fun {j} => tracks_velocity (w := toldElbow) (by decide +kernel) (o := {})
    (by decide +kernel) hmem (j := j)
  rcases htracks List.mem_cons_self with ⟨hfull, -⟩ | ⟨b, elbow, hb, -, hjoint, htold, -⟩
  · exact absurd hfull hsize
  rcases htracks (List.mem_cons_of_mem _ List.mem_cons_self) with
    ⟨hfull, -⟩ | ⟨b', wrist, hb', -, hjoint', -, hkept⟩
  · exact absurd hfull hsize
  cases hb.symm.trans hb'
  rw [hb] at hruns
  obtain ⟨sim, hsim⟩ := Option.isSome_iff_exists.1 hruns
  obtain ⟨-, -, hvelocity⟩ := htold _ hlast 0 sim hsim
  refine ⟨b, elbow, wrist, sim, hb, hsim, (hjoint 1 sim hsim elbow).2 rfl, ?_,
    (hjoint' 1 sim hsim wrist).2 rfl, hkept hidle 1 sim hsim⟩
  rw [hvelocity]
  decide +kernel

end Servo.Simulation
