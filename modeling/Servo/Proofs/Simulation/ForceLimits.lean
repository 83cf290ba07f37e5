import Servo.Proofs.Regulator.Limits
import Servo.Proofs.Simulation.Reach
import Servo.Proofs.Simulation.Snapshot

/-!
# Limited forces

Of the regulators that act on a joint only the last one leaves its command (`acting?`), and its
limits hold in every simulation that is reached from a world, whatever its clock does
(`Held.reaches`).  `forces_limited` says so of everything that runs record.
-/

namespace Servo.Simulation

open Controller

/-! ### Who acts on a joint -/

/-- The last of the regulators that act on a joint, with the inbox of its set-points. -/
def acting? (drivers : List Active) : Option (Regulator × Inbox) :=
  (drivers.filterMap fun a => a.actuation.regulator?.map (·, a.inbox)).getLast?

/-- The gains of the last regulator that acts on a joint. -/
def actingGains? (drivers : List Active) : Option Gains := (acting? drivers).map (·.1.gains)

/-- The first driver acts on a joint if no later one does. -/
theorem acting?_cons (a : Active) (rest : List Active) :
  acting? (a :: rest) = (acting? rest).or (a.actuation.regulator?.map (·, a.inbox))
  := by
  rw [acting?, acting?]
  cases h : a.actuation.regulator? with
  | none => rw [List.filterMap_cons_none (by rw [h]; rfl), Option.map_none, Option.or_none]
  | some g =>
    rw [List.filterMap_cons_some (by rw [h]; rfl), List.getLast?_cons, Option.map_some]
    cases List.getLast? _ <;> rfl

/-- The gains of the first driver count if no later one acts. -/
theorem actingGains?_cons (a : Active) (rest : List Active) :
  actingGains? (a :: rest)
    = (actingGains? rest).or (a.actuation.regulator?.map (·.gains))
  := by
  rw [actingGains?, actingGains?, acting?_cons]
  cases acting? rest <;> cases a.actuation.regulator? <;> rfl

/-- Driving a joint changes no gains, and it keeps the velocity that drivers observe. -/
theorem driven_gains (a : Actuation) (r : Records) (target dt : Float) :
  ((a.driven r target dt).actuation.regulator?).map (·.gains) = a.regulator?.map (·.gains)
    ∧ (withVelocityRecord (a.driven r target dt).records).axis? .velocity
      = (withVelocityRecord r).axis? .velocity
  := by
  have hkept : ∀ {q : Quantity} (v : Float), q ≠ .velocity →
      (withVelocityRecord ((withVelocityRecord r).setAxis q v)).axis? .velocity
        = (withVelocityRecord r).axis? .velocity := by
    intro q v hq
    have hvelocity : (withVelocityRecord r).get? (.axes .velocity)
        = ((withVelocityRecord r).setAxis q v).get? (.axes .velocity) := by
      rw [Records.get?_setAxis_of_ne]
      intro heq
      cases heq
      apply hq rfl
    rw [get?_withVelocityRecord] at hvelocity
    rw [withVelocityRecord_eq_self hvelocity.symm, Records.axis?_setAxis_of_ne hq.symm]
  cases a with
  | velocity => exact ⟨rfl, hkept target (by decide)⟩
  | force g =>
    cases hv : (withVelocityRecord r).axis? .velocity with
    | none => simp only [Actuation.driven, hv, and_self]
    | some observed =>
      simp only [Actuation.driven, hv] at hkept ⊢
      exact ⟨rfl, hkept _ (by decide : Quantity.forceCommand ≠ .velocity)⟩

/-- Driving a joint leaves the command of the regulator, if there is one and the velocity can be
observed. -/
theorem forceCommand_driven (a : Actuation) (r : Records) (target dt : Float) :
  (a.driven r target dt).records.axis? .forceCommand
    = match (withVelocityRecord r).axis? .velocity, a.regulator? with
      | some observed, some g => some (g.update (observed - target) dt).state.output
      | _, _ => r.axis? .forceCommand
  := by
  have hkept : (withVelocityRecord r).axis? .forceCommand = r.axis? .forceCommand := by
    rw [Records.axis?, get?_withVelocityRecord_of_ne (by decide), Records.axis?]
  cases a with
  | velocity =>
    rw [Actuation.driven, Records.axis?_setAxis_of_ne (by decide), hkept]
    cases (withVelocityRecord r).axis? .velocity <;> rfl
  | force g =>
    cases hv : (withVelocityRecord r).axis? .velocity with
    | none => simp only [Actuation.driven, hv]
    | some observed => simp only [Actuation.driven, hv, Records.axis?_setAxis_self, Actuation.regulator?]

/-- After its drivers worked the same gains act on a joint. -/
theorem actingGains?_driveAll (joint : Entity) (b : Inboxes) (dt : Float) (drivers : List Active)
    (r : Records) :
  actingGains? (driveAll joint b dt drivers r).1 = actingGains? drivers
  := by
  induction drivers generalizing r with
  | nil => rfl
  | cons a rest ih =>
    obtain ⟨hgains, -⟩ := driven_gains a.actuation r (b.read a.inbox) dt
    rw [driveAll, actingGains?_cons, actingGains?_cons, ih, Active.afterDrive, hgains]

/-- The drivers leave the command of the last regulator, if there is one and the velocity can be
observed. -/
theorem forceCommand_driveAll (joint : Entity) (b : Inboxes) (dt : Float)
    (drivers : List Active) (r : Records) :
  (driveAll joint b dt drivers r).2.axis? .forceCommand
    = match (withVelocityRecord r).axis? .velocity, acting? drivers with
      | some observed, some (g, i) => some (g.update (observed - b.read i) dt).state.output
      | _, _ => r.axis? .forceCommand
  := by
  induction drivers generalizing r with
  | nil =>
    rw [driveAll, acting?]
    cases (withVelocityRecord r).axis? .velocity <;> rfl
  | cons a rest ih =>
    obtain ⟨-, hobserved⟩ := driven_gains a.actuation r (b.read a.inbox) dt
    rw [driveAll, ih, hobserved, forceCommand_driven, acting?_cons]
    cases (withVelocityRecord r).axis? .velocity with
    | none => rfl
    | some observed =>
      cases acting? rest with
      | some p => rfl
      | none => cases a.actuation.regulator? <;> rfl

/-- The gains of the last configuration in force mode are those that act on a joint. -/
theorem actingGains?_of_installed {n : Network} {owner : Entity} {name : String}
    {configs : List Config} {drivers : List Active}
    (h : List.Forall₂ (Installed n owner name) configs drivers) :
  actingGains? drivers = ((configs.filter (·.mode = .force)).getLast?).map (·.gains)
  := by
  induction h with
  | nil => rfl
  | @cons c a configs drivers ha _ ih =>
    rw [actingGains?_cons, ih, ha.actuation, Actuation.ofConfig]
    cases hmode : c.mode with
    | velocity =>
      rw [List.filter_cons_of_neg (by simp [hmode])]
      apply Option.or_none
    | force =>
      rw [List.filter_cons_of_pos (by simp [hmode]), List.getLast?_cons]
      cases (configs.filter (·.mode = .force)).getLast? <;> rfl

/-- Finding a joint changes no gains. -/
theorem actingGains?_map_withJoint (joint : Option Entity) (drivers : List Active) :
  actingGains? (drivers.map (·.withJoint joint)) = actingGains? drivers
  := by
  induction drivers with
  | nil => rfl
  | cons a rest ih =>
    rw [List.map_cons, actingGains?_cons, actingGains?_cons, ih]
    rfl

/-! ### Steps -/

/-- A joint is held within the limits of the gains `g`: these act on it, and no force beyond the
limits was commanded. -/
structure Held (sim : Simulation) (e : Entity) (g : Gains) : Prop where
  drivers : ∃ cs d, sim.systems = cs.map .controller ++ [.dynamics d]
    ∧ actingGains? (drivers sim.store e cs) = some g
  force : ∃ r, sim.store.records? e = some r
    ∧ ∀ f, r.axis? .forceCommand = some f → Within g.commandMin g.commandMax f

/-- The drivers of a joint hold it within the limits of the last of them that acts. -/
theorem within_driveAll {g : Gains} (hg : g.commandMin ≤ g.commandMax) {drivers : List Active}
    (hacting : actingGains? drivers = some g) {r : Records}
    (hr : ∀ f, r.axis? .forceCommand = some f → Within g.commandMin g.commandMax f)
    (joint : Entity) (b : Inboxes) (dt : Float) :
  ∀ f, (driveAll joint b dt drivers r).2.axis? .forceCommand = some f →
    Within g.commandMin g.commandMax f
  := by
  intro f hf
  obtain ⟨⟨last, i⟩, hlast, rfl⟩ := Option.map_eq_some_iff.1 hacting
  rw [forceCommand_driveAll, hlast] at hf
  split at hf
  next observed _ _ _ heq =>
    cases heq
    cases hf
    apply (Regulator.limited_update last _ dt).output hg
  next => apply hr f hf

/-- A step keeps a joint within the limits. -/
theorem Held.step {sim : Simulation} {e : Entity} {g : Gains} (h : sim.Held e g)
    (hg : g.commandMin ≤ g.commandMax) (dt : Float) :
  (sim.step dt).2.1.Held e g
  := by
  obtain ⟨cs, d, hsystems, hacting⟩ := h.drivers
  obtain ⟨r, hr, hforce⟩ := h.force
  obtain ⟨hsystems', hstore⟩ := step_eq hsystems dt
  have hdrivers := fun cs' => drivers_congr (sim.outline_step dt) e cs'
  -- A paused step drives nothing.  Otherwise all drivers of the joint work, and the motion of the
  -- joint that follows changes no command.
  cases hpaused : (sim.clock.step dt).1.paused with
  | true =>
    obtain ⟨hpass, hkept⟩ := pass_of_paused hpaused sim.network.inboxes sim.store e cs
    rw [hkept, Dynamics.update, if_pos hpaused] at hstore
    constructor
    case drivers =>
      refine ⟨_, d, hsystems', ?_⟩
      rw [hdrivers, hpass, actingGains?_map_withJoint, hacting]
    case force => exact ⟨r, by rw [hstore, hr], hforce⟩
  | false =>
    obtain ⟨hpass, hrecords⟩ := pass_joint hpaused sim.network.inboxes cs hr
    have hdriven := within_driveAll hg hacting hforce e sim.network.inboxes
      (sim.clock.step dt).1.dt
    constructor
    case drivers =>
      refine ⟨_, d, hsystems', ?_⟩
      rw [hdrivers, hpass, actingGains?_driveAll, hacting]
    case force =>
      rw [hstore, Dynamics.records?_update hpaused, hrecords, Option.map_some]
      refine ⟨_, rfl, ?_⟩
      intro f hf
      apply hdriven f
      split at hf
      next =>
        rw [Records.axis?, Dynamics.get?_moved (by decide)] at hf
        apply hf
      next => apply hf

/-- A joint that is held within limits is so in all simulations that are reached. -/
theorem Held.reaches {x y : Simulation} {e : Entity} {g : Gains} (h : x.Held e g)
    (hg : g.commandMin ≤ g.commandMax) (hy : x.Reaches y) :
  y.Held e g
  := by
  induction hy with
  | refl => apply h
  | step _ dt ih => apply ih.step hg dt
  | setPaused _ paused ih => exact ⟨ih.drivers, ih.force⟩
  | seek _ time ih => exact ⟨ih.drivers, ih.force⟩
  | publish _ hp ih => exact ⟨ih.drivers, ih.force⟩

/-- All simulations that are reached have the same outline. -/
theorem Reaches.outline {x y : Simulation} (h : x.Reaches y) :
  x.store.SameOutline y.store
  := by
  induction h with
  | refl => apply Store.SameOutline.refl
  | @step y _ dt ih => apply ih.trans (y.outline_step dt)
  | setPaused _ paused ih => apply ih
  | seek _ time ih => apply ih
  | publish _ hp ih => apply ih

/-! ### Runs -/

/-- The joints of a world are held within the limits of the last plugin in force mode that drives
them. -/
theorem Built.Mirrors.held {w : World} {b : Built} {sites : List Site} {cs : List Controller}
    (h : b.Mirrors w sites cs) {x : Site} (hx : x ∈ sites) {p : Entity × World.Joint}
    (hp : p ∈ x.joints) {c : Config}
    (hc : ((x.model.driving p.2.name).filter (·.mode = .force)).getLast? = some c) :
  b.simulation.Held p.1 c.gains
  := by
  have hinstalled := h.simulation.drivers h.valid h.models hx hp
  constructor
  case drivers =>
    refine ⟨cs, _, h.simulation.rigged.systems, ?_⟩
    rw [actingGains?_of_installed hinstalled, hc, Option.map_some]
  case force => exact ⟨_, h.simulation.records?_joint hx hp, nofun⟩

/-- A snapshot of a simulation that is reached from a world has samples of its joints only. -/
theorem Built.Mirrors.of_mem_snapshot {w : World} {b : Built} {sites : List Site}
    {cs : List Controller} (h : b.Mirrors w sites cs) {y : Simulation}
    (hy : b.simulation.Reaches y) {sample : Sample} (hsample : sample ∈ y.snapshot) :
  ∃ x ∈ sites, ∃ p ∈ x.joints,
    (∀ e', y.store.IsJoint x.model.name p.2.name e' ↔ e' = p.1)
      ∧ sample = .ofJoint y.store y.clock.time p.1
  := by
  obtain ⟨e, he, rfl⟩ := List.mem_map.1 hsample
  rw [hy.outline.withAttribute (a := .joint) nofun, h.simulation.withAttribute_joint] at he
  obtain ⟨x, hx, he⟩ := List.mem_flatMap.1 he
  obtain ⟨p, hp, rfl⟩ := List.mem_map.1 he
  refine ⟨x, hx, p, hp, ?_, rfl⟩
  intro e'
  rw [hy.outline.isJoint_iff, h.simulation.isJoint_iff h.valid h.models hx hp]

/-- No update of a regulator clamps between bounds that are not in order; after every update the
integral and the command are within their limits, if these are in order, and otherwise they are not
limited.  Hence, whatever was done with the simulation of a world, all samples that a run of it
records are of joints of the world, and their forces are within the limits of the last plugin in
force mode that drives the joint. -/
theorem forces_limited :
  (∀ (r : Regulator) (updates : List (Float × Float)) (error dt : Float),
      let before := r.after updates
      r.after? (updates ++ [(error, dt)]) = some (before.update error dt)
        ∧ Regulator.Limited r.gains before (before.update error dt) error dt)
    ∧ ∀ {w : World} {b : Built}, ofWorld w = .ok b →
      ∀ {x : Simulation}, b.simulation.Reaches x →
      ∀ {o : Options} {commands : List Scheduled} {samples : List Sample},
        (x.run o commands).result = .ok samples →
      ∀ sample ∈ samples, ∃ m ∈ w.models, ∃ j ∈ m.joints, ∃ y e, x.Reaches y
        ∧ (∀ e', y.store.IsJoint m.name j.name e' ↔ e' = e)
        ∧ sample = .ofJoint y.store y.clock.time e
        ∧ ∀ c, ((m.driving j.name).filter (·.mode = .force)).getLast? = some c →
          c.gains.commandMin ≤ c.gains.commandMax →
          ∀ f, sample.forceCommand = some f → Within c.gains.commandMin c.gains.commandMax f
  := by
  constructor
  · intro r updates error dt before
    have hlimited := before.limited_update error dt
    rw [Regulator.gains_after] at hlimited
    refine ⟨?_, hlimited⟩
    rw [Regulator.after?_eq, Regulator.after, List.foldl_append]
    rfl
  · intro w b hb x hx o commands samples hsamples sample hsample
    obtain ⟨sites, cs, hmirrors⟩ := mirrors_of_ofWorld hb
    obtain ⟨states, rfl, hreached⟩ := (samples_of_run x o commands).2 samples hsamples
    obtain ⟨y, hy, hsample⟩ := List.mem_flatMap.1 hsample
    have hxy := hreached y hy
    obtain ⟨site, hsite, p, hp, hjoint, rfl⟩ := hmirrors.of_mem_snapshot (hx.trans hxy) hsample
    refine ⟨site.model, ?_, p.2, ?_, y, p.1, hxy, hjoint, rfl, ?_⟩
    · rw [← hmirrors.models]
      apply List.mem_map_of_mem hsite
    · rw [← site.listed]
      apply List.mem_map_of_mem hp
    · intro c hc hordered f hf
      obtain ⟨r, hr, hforce⟩ :=
        ((hmirrors.held hsite hp hc).reaches hordered (hx.trans hxy)).force
      apply hforce f
      rw [← Store.axis?_eq_of_records? hr]
      apply hf

/-- A world with the joint `elbow`, on which two regulators act.  Only the second one has limits,
and its gain is large. -/
def pushedElbow : World where
  version := 1
  name := "bench"
  models := [{
    name := "arm"
    joints := [{ name := "elbow" }]
    plugins := [
      { kind := .jointController
        params := .ofList [("joint_name", .text "elbow"), ("use_force_commands", .bool true)] },
      { kind := .jointController
        params := .ofList [("joint_name", .text "elbow"), ("use_force_commands", .bool true),
          ("initial_velocity", .float 2), ("p_gain", .float 100), ("cmd_max", .float 1),
          ("cmd_min", .float (-1))] }] }]

/-- A run of two steps records forces on `elbow`, and they are within the limits. -/
theorem forces_limited_pushedElbow :
  ∃ b samples, ofWorld pushedElbow = .ok b
    ∧ (b.simulation.run { dt := 0.5, recordEvery := 1, maxSteps := 2 } []).result = .ok samples
    ∧ samples.map (·.forceCommand) = [none, some (-1), some (-1)]
    ∧ ∀ sample ∈ samples, ∀ f, sample.forceCommand = some f → Within (-1) 1 f
  := by
  have hruns : ((ofWorld pushedElbow).toOption.bind fun b =>
      (b.simulation.run { dt := 0.5, recordEvery := 1, maxSteps := 2 } []).result.toOption.map
        fun samples => samples.map (·.forceCommand)) = some [none, some (-1), some (-1)] := by
    set_option maxRecDepth 10000 in
    decide +kernel
  have hlast : ∀ m ∈ pushedElbow.models, ∀ j ∈ m.joints, ∃ c,
      ((m.driving j.name).filter (·.mode = .force)).getLast? = some c
        ∧ c.gains.commandMin = -1 ∧ c.gains.commandMax = 1 := by
    intro m hm j hj
    obtain rfl := List.mem_singleton.1 hm
    obtain rfl := List.mem_singleton.1 hj
    refine ⟨⟨"elbow", 2, .force, { proportional := 100, commandMin := -1, commandMax := 1 }, none⟩,
      ?_, rfl, rfl⟩
    decide +kernel
  obtain ⟨b, hb, hruns⟩ := Option.bind_eq_some_iff.1 hruns
  obtain ⟨samples, hsamples, hforces⟩ := Option.map_eq_some_iff.1 hruns
  have hbuilt := eq_ok_of_toOption hb
  refine ⟨b, samples, hbuilt, eq_ok_of_toOption hsamples, hforces, ?_⟩
  intro sample hsample f hf
  obtain ⟨m, hm, j, hj, -, -, -, -, -, hlimits⟩ :=
    forces_limited.2 hbuilt .refl (eq_ok_of_toOption hsamples) sample hsample
  obtain ⟨c, hc, hmin, hmax⟩ := hlast m hm j hj
  rw [← hmin, ← hmax]
  apply hlimits c hc _ f hf
  rw [hmin, hmax]
  decide +kernel

end Servo.Simulation
