import Servo.Proofs.Simulation.Capacity
import Servo.Proofs.Simulation.Snapshot

/-!
# Models do not interfere

What a run records of the joints of a model does not depend on the other models of the world, nor
on plugins that configure no controller (`models_do_not_interfere`): it is told by the replicas of
the joints, and these are the same in a world from which another model is deleted.
-/

namespace Servo

/-! ### Worlds without some of their parts -/

/-- A valid world with other models that are valid and have different names is valid. -/
theorem World.Valid.withModels {w : World} (h : w.Valid) {models : List World.Model}
    (hdistinct : (models.map (·.name)).Nodup) (hmodels : ∀ m ∈ models, m.Valid) :
  { w with models }.Valid
  := by
  constructor
  case version => apply h.version
  case inertia => apply h.inertia
  case damping => apply h.damping
  case distinct => apply hdistinct
  case models => apply hmodels
  case commands => apply h.commands

theorem World.Model.driving_of_error {m : World.Model} {before after : List World.Plugin}
    {p : World.Plugin} {e : Controller.Error} (hplugins : m.plugins = before ++ p :: after)
    (hp : Controller.Config.ofParams p.params = .error e) (joint : String) :
  { m with plugins := before ++ after }.driving joint = m.driving joint
  := by
  rw [driving, driving, hplugins, List.filterMap_append, List.filterMap_append,
    List.filterMap_cons_none (by rw [hp]; rfl)]

/-- A valid world without one of its models is valid, and it needs fewer entities. -/
theorem World.Valid.withoutModel {w : World} (h : w.Valid) {before after : List World.Model}
    {m : World.Model} (hmodels : w.models = before ++ m :: after) :
  { w with models := before ++ after }.Valid
    ∧ { w with models := before ++ after }.size ≤ w.size
  := by
  have hsublist : (before ++ after).Sublist w.models := by
    rw [hmodels]
    apply List.Sublist.append_left (List.sublist_cons_self m after)
  constructor
  · apply h.withModels (h.distinct.sublist (hsublist.map _))
    intro m' hm'
    apply h.models m' (hsublist.subset hm')
  · simp only [size, hmodels, List.map_append, List.sum_append, List.map_cons, List.sum_cons]
    omega

/-- A valid world with other plugins in one of its models is valid, and it needs as many
entities. -/
theorem World.Valid.withPlugins {w : World} (h : w.Valid) {before after : List World.Model}
    {m : World.Model} (hmodels : w.models = before ++ m :: after) (plugins : List World.Plugin) :
  { w with models := before ++ { m with plugins } :: after }.Valid
    ∧ { w with models := before ++ { m with plugins } :: after }.size = w.size
  := by
  have hm := h.models m (by rw [hmodels]; exact List.mem_append_right _ List.mem_cons_self)
  have hdistinct := h.distinct
  rw [hmodels, List.map_append, List.map_cons] at hdistinct
  constructor
  · apply h.withModels
    · rw [List.map_append, List.map_cons]
      apply hdistinct
    · intro m' hm'
      rcases List.mem_append.1 hm' with hbefore | hrest
      · apply h.models m'
        rw [hmodels]
        apply List.mem_append_left _ hbefore
      · rcases List.mem_cons.1 hrest with rfl | hafter
        · exact ⟨hm.named, hm.distinct, hm.joints⟩
        · apply h.models m'
          rw [hmodels]
          apply List.mem_append_right _ (List.mem_cons_of_mem _ hafter)
  · simp only [size, hmodels, List.map_append, List.map_cons]

/-- A sample depends on the physics and the commands of the world, on the name of the model and on
the configurations that drive the joint. -/
theorem World.sampleAt_congr {w w' : World} (hphysics : w'.physics = w.physics)
    (hcommands : w'.commands = w.commands) {m m' : World.Model} (hname : m'.name = m.name)
    {j : World.Joint} (hdriving : m'.driving j.name = m.driving j.name) (dt : Float) (k : Nat) :
  w'.sampleAt m' dt k j = w.sampleAt m dt k j
  := by
  have hlast : w'.lastCommand? = w.lastCommand? := by
    funext t now
    rw [lastCommand?, lastCommand?, hcommands]
  have hpoint : w'.setPoint = w.setPoint := by
    funext model c now
    rw [setPoint, setPoint, hlast]
  simp only [sampleAt, replicaAt, setPoints, hphysics, hpoint, hname, hdriving]

namespace Simulation

/-- The run of what is built records snapshots of its states after some numbers of ticks. -/
structure Built.Records (b : Built) (o : Options) (ticks : List Nat) (state : Nat → Simulation) :
    Prop where
  states : ∀ k ∈ ticks, b.simulation.stateAfter? o b.schedule k = some (state k)
  result : (b.simulation.run o b.schedule).result
    = .ok (ticks.flatMap fun k => (state k).snapshot)

/-- The run of what is built from a world records snapshots. -/
theorem Built.Mirrors.records {w : World} {b : Built} {sites : List Site} {cs : List Controller}
    (h : b.Mirrors w sites cs) {o : Options} (ho : o.fault? = none) {n : Nat}
    (hn : o.Lasts (tickTime o.dt) n) :
  b.Records o (recorded o.recordEvery n)
    fun k => (b.simulation.performance o.dt b.schedule k).simulation
  := by
  rw [← funext (h.startTime o.dt)] at hn
  obtain ⟨-, hstates⟩ := stateAfter?_eq h.numeric h.addressed b.simulation hn
  constructor
  case states =>
    intro k hk
    apply hstates k (le_of_mem_recorded o.recordEvery n k hk)
  case result =>
    rw [run_eq ho h.numeric h.addressed b.simulation hn]
    rfl

/-- A world whose models are some of those of a world that is built is built, too, and its run
records samples at the same ticks. -/
theorem records_of_size_le {w w' : World} (hw' : w'.Valid) (hsize : w'.size ≤ w.size)
    (hroom : w.size ≤ Entity.capacity) {o : Options} (ho : o.fault? = none) {n : Nat}
    (hn : o.Lasts (tickTime o.dt) n) :
  ∃ b state, ofWorld w' = .ok b ∧ b.Records o (recorded o.recordEvery n) state
    ∧ ∀ k ∈ recorded o.recordEvery n,
      (state k).snapshot = w'.models.flatMap fun m => m.joints.map (w'.sampleAt m o.dt k)
  := by
  obtain ⟨b, hb⟩ := (ofWorld_cases hw').1 (Nat.le_trans hsize hroom)
  obtain ⟨sites, cs, hmirrors⟩ := mirrors_of_ofWorld hb
  have hrecords := hmirrors.records ho hn
  refine ⟨b, _, hb, hrecords, ?_⟩
  intro k hk
  apply hmirrors.snapshot_eq ho (hrecords.states k hk)

/-- The models of a valid world besides one of them are those with another name. -/
theorem filter_name_ne {w : World} (hw : w.Valid) {before after : List World.Model}
    {m : World.Model} (hmodels : w.models = before ++ m :: after) :
  w.models.filter (fun m' => some m'.name ≠ some m.name) = before ++ after
  := by
  have hdistinct := hw.distinct
  rw [hmodels, List.map_append, List.map_cons, List.nodup_middle, List.nodup_cons,
    List.mem_append, List.mem_map, List.mem_map] at hdistinct
  have hother : ∀ models : List World.Model, (∀ m' ∈ models, m'.name ≠ m.name) →
      models.filter (fun m' => some m'.name ≠ some m.name) = models := by
    intro models hne
    rw [List.filter_eq_self]
    intro m' hm'
    simpa using hne m' hm'
  rw [hmodels, List.filter_append, List.filter_cons_of_neg (by simp), hother before, hother after]
  · intro m' hm' hname
    exact hdistinct.1 (.inr ⟨m', hm', hname⟩)
  · intro m' hm' hname
    exact hdistinct.1 (.inl ⟨m', hm', hname⟩)

/-- The run of a world without one of its models records the same samples of the joints of the
other models, snapshot by snapshot, and the run of a world without a plugin that configures no
controller records the same samples of all joints.  A world without these runs is one that needs
more entities than there are. -/
theorem models_do_not_interfere {w : World} (hw : w.fault? = none) {o : Options}
    (ho : o.fault? = none) :
  (Entity.capacity < w.size ∧ ofWorld w = .error (.store .exhausted))
    ∨ ∃ b ticks state, ofWorld w = .ok b ∧ b.Records o ticks state
      ∧ (∀ before m after, w.models = before ++ m :: after →
        ∃ b' state', ofWorld { w with models := before ++ after } = .ok b'
          ∧ b'.Records o ticks state'
          ∧ ∀ k ∈ ticks, (state' k).snapshot = (state k).snapshotWithout m.name)
      ∧ (∀ before m after earlier p later e, w.models = before ++ m :: after →
        m.plugins = earlier ++ p :: later → Controller.Config.ofParams p.params = .error e →
        ∃ b' state',
          ofWorld { w with
              models := before ++ { m with plugins := earlier ++ later } :: after } = .ok b'
            ∧ b'.Records o ticks state'
            ∧ ∀ k ∈ ticks, (state' k).snapshot = (state k).snapshot)
  := by
  have hvalid := World.fault?_eq_none_iff.1 hw
  obtain ⟨hok, hfull⟩ := ofWorld_cases hvalid
  rcases Nat.lt_or_ge Entity.capacity w.size with hroom | hroom
  · exact .inl ⟨hroom, hfull hroom⟩
  right
  obtain ⟨b, hb⟩ := hok hroom
  obtain ⟨sites, cs, hmirrors⟩ := mirrors_of_ofWorld hb
  obtain ⟨n, hn⟩ := o.exists_lasts (tickTime o.dt)
  have hrecords := hmirrors.records ho hn
  refine ⟨b, _, _, hb, hrecords, ?_, ?_⟩
  · intro before m after hmodels
    obtain ⟨hvalid', hsize⟩ := hvalid.withoutModel hmodels
    obtain ⟨b', state', hb', hrecords', hsnapshot⟩ :=
      records_of_size_le hvalid' hsize hroom ho hn
    refine ⟨b', state', hb', hrecords', ?_⟩
    intro k hk
    have hkept := hmirrors.map_joints ho (hrecords.states k hk) (· ≠ some m.name)
    rw [filter_name_ne hvalid hmodels] at hkept
    rw [hsnapshot k hk, snapshotWithout, hkept]
    apply List.flatMap_congr
    intro m' _
    apply List.map_congr_left
    intro j _
    apply World.sampleAt_congr rfl rfl rfl rfl
  · intro before m after earlier p later e hmodels hplugins hp
    obtain ⟨hvalid', hsize⟩ := hvalid.withPlugins hmodels (earlier ++ later)
    obtain ⟨b', state', hb', hrecords', hsnapshot⟩ :=
      records_of_size_le hvalid' (Nat.le_of_eq hsize) hroom ho hn
    refine ⟨b', state', hb', hrecords', ?_⟩
    intro k hk
    rw [hsnapshot k hk, hmirrors.snapshot_eq ho (hrecords.states k hk), hmodels,
      List.flatMap_append, List.flatMap_append, List.flatMap_cons, List.flatMap_cons]
    congr 2
    apply List.map_congr_left
    intro j _
    apply World.sampleAt_congr
    · rfl
    · rfl
    · rfl
    · apply World.Model.driving_of_error hplugins hp

/-- A model with a joint that is told its velocity on the topic `/go`. -/
def goingArm : World.Model where
  name := "arm"
  joints := [{ name := "elbow" }]
  plugins := [{
    kind := .jointController
    params := .ofList [("joint_name", .text "elbow"), ("topic", .text "/go")] }]

/-- A plugin that names no joint. -/
def jointless : World.Plugin where
  kind := .jointController

/-- The plugin of a regulator on the topic `/go`. -/
def kneeRegulator : World.Plugin where
  kind := .jointController
  params := .ofList [("joint_name", .text "knee"), ("use_force_commands", .bool true),
    ("topic", .text "/go")]

/-- A model with a joint that has a regulator, and a plugin without a joint. -/
def goingLeg : World.Model where
  name := "leg"
  joints := [{ name := "knee", initialVelocity := some 1 }]
  plugins := [jointless, kneeRegulator]

/-- A world with two models that listen to the same commands. -/
def goingBody : World where
  version := 1
  name := "body"
  models := [goingArm, goingLeg]
  commands := [⟨0, "go", 2⟩]

/-- The leg moves alike without the arm, and both move alike without the plugin that names no
joint. -/
theorem models_do_not_interfere_goingBody :
  ∃ b ticks state, ofWorld goingBody = .ok b ∧ b.Records {} ticks state
    ∧ (∃ b' state', ofWorld { goingBody with models := [goingLeg] } = .ok b'
      ∧ b'.Records {} ticks state'
      ∧ ∀ k ∈ ticks, (state' k).snapshot = (state k).snapshotWithout "arm")
    ∧ ∃ b' state',
      ofWorld { goingBody with
          models := [goingArm, { goingLeg with plugins := [kneeRegulator] }] } = .ok b'
        ∧ b'.Records {} ticks state'
        ∧ ∀ k ∈ ticks, (state' k).snapshot = (state k).snapshot
  := by
  have hworld : goingBody.fault? = none := by decide +kernel
  have hoptions : Options.fault? {} = none := by decide +kernel
  have hsize : ¬ Entity.capacity < goingBody.size := by decide +kernel
  have hjointless : Controller.Config.ofParams jointless.params
      = .error (.missing Controller.Config.jointKey) := by
    decide +kernel
  rcases models_do_not_interfere hworld hoptions with
    ⟨hfull, -⟩ | ⟨b, ticks, state, hb, hrecords, hmodel, hplugin⟩
  · exact absurd hfull hsize
  · refine ⟨b, ticks, state, hb, hrecords, ?_, ?_⟩
    · apply hmodel [] goingArm [goingLeg] rfl
    · apply hplugin [goingArm] goingLeg [] [] jointless [kneeRegulator] _ rfl rfl hjointless

end Simulation

end Servo
