import Servo.Proofs.Simulation.Recording
import Servo.Proofs.Simulation.Structure
import Servo.Proofs.Text.Separator

/-!
# The labels of joints

The label of a joint is its name behind that of its model, and samples are told apart by nothing
else.  `series_of_label` says what a run records under a label: the time series of one joint, as
long as no other joint has the same label.  Two joints share a label only if their names run into
each other (`World.label_eq_iff`), which a slash inside of a name can bring about.
-/

namespace Servo

namespace World

/-! ### Labels -/

/-- The joints of a world with their models, in the order of the document. -/
def joints (w : World) : List (Model × Joint) := w.models.flatMap fun m => m.joints.map (m, ·)

/-- The label of a joint. -/
def label (p : Model × Joint) : String := p.1.name ++ "/" ++ p.2.name

/-- The labels of the joints of a world. -/
def labels (w : World) : List String := w.joints.map label

/-- The names of two joints run into each other: that of the second model goes on after a slash with
what the name of the first joint begins with, before another slash. -/
def RunsInto (p q : Model × Joint) : Prop :=
  ∃ x, q.1.name = p.1.name ++ "/" ++ x ∧ p.2.name = x ++ "/" ++ q.2.name

/-- Two joints have the same label only if their names are the same or run into each other. -/
theorem label_eq_iff {p q : Model × Joint} :
  label p = label q
    ↔ (p.1.name = q.1.name ∧ p.2.name = q.2.name) ∨ RunsInto p q ∨ RunsInto q p
  := by
  rw [label, label, Text.joined_eq_iff, Text.shifts_slash_iff, Text.shifts_slash_iff]
  rfl

/-- Names run into each other only if there is a slash in that of a model and in that of a joint. -/
theorem RunsInto.slash {p q : Model × Joint} (h : RunsInto p q) :
  '/' ∈ q.1.name.toList ∧ '/' ∈ p.2.name.toList
  := by
  obtain ⟨x, hmodel, hjoint⟩ := h
  rw [hmodel, hjoint]
  simp

/-- A joint of a world is one of a model. -/
theorem mem_joints_iff {w : World} {p : Model × Joint} :
  p ∈ w.joints ↔ p.1 ∈ w.models ∧ p.2 ∈ p.1.joints
  := by
  rw [joints, List.mem_flatMap]
  constructor
  · rintro ⟨m, hm, hp⟩
    obtain ⟨j, hj, rfl⟩ := List.mem_map.1 hp
    exact ⟨hm, hj⟩
  · rintro ⟨hm, hj⟩
    exact ⟨p.1, hm, List.mem_map_of_mem hj⟩

namespace Valid

variable {w : World}

/-- A joint of a valid world is known by the names of its model and of itself. -/
theorem joint_eq (hw : w.Valid) {p q : Model × Joint} (hp : p ∈ w.joints) (hq : q ∈ w.joints)
    (hmodel : p.1.name = q.1.name) (hjoint : p.2.name = q.2.name) :
  p = q
  := by
  obtain ⟨m, j⟩ := p
  obtain ⟨n, i⟩ := q
  obtain ⟨hm, hj⟩ := mem_joints_iff.1 hp
  obtain ⟨hn, hi⟩ := mem_joints_iff.1 hq
  obtain rfl := List.inj_on_of_nodup_map hw.distinct hm hn hmodel
  obtain rfl := List.inj_on_of_nodup_map (hw.models m hm).distinct hj hi hjoint
  rfl

/-- The joints of a valid world are listed once. -/
theorem nodup_joints (hw : w.Valid) :
  w.joints.Nodup
  := by
  rw [joints, List.nodup_flatMap]
  constructor
  · intro m hm
    apply (hw.models m hm).distinct.of_map.map
    intro i j h
    exact congrArg Prod.snd h
  · apply hw.distinct.of_map.imp
    intro m n hne
    rw [Function.onFun, List.disjoint_left]
    intro p hp hq
    obtain ⟨i, -, rfl⟩ := List.mem_map.1 hp
    obtain ⟨j, -, h⟩ := List.mem_map.1 hq
    apply hne (congrArg Prod.fst h).symm

/-- The labels of a valid world differ exactly if no two names run into each other. -/
theorem nodup_labels_iff (hw : w.Valid) :
  w.labels.Nodup ↔ ∀ p ∈ w.joints, ∀ q ∈ w.joints, ¬ RunsInto p q
  := by
  rw [labels, List.nodup_map_iff_inj_on hw.nodup_joints]
  constructor
  · intro hinj p hp q hq hrun
    obtain rfl := hinj p hp q hq (label_eq_iff.2 (.inr (.inl hrun)))
    obtain ⟨x, hmodel, -⟩ := hrun
    have hlength := congrArg String.length hmodel
    rw [String.length_append, String.length_append] at hlength
    have hslash : "/".length = 1 := rfl
    omega
  · intro h p hp q hq hlabel
    rcases label_eq_iff.1 hlabel with ⟨hmodel, hjoint⟩ | hrun | hrun
    · apply hw.joint_eq hp hq hmodel hjoint
    · exact absurd hrun (h p hp q hq)
    · exact absurd hrun (h q hq p hp)

end Valid

end World

namespace Store.Laid

open Simulation

variable {s : Store} {w : World} {sites : List Site}

/-- The joints of a site are the joints of its model. -/
theorem isJoint (h : s.Laid w sites) {x : Site} (hx : x ∈ sites) {p : Entity × World.Joint}
    (hp : p ∈ x.joints) :
  s.IsJoint x.model.name p.2.name p.1
  := by
  have hmodel : x.entity ∈ s.withAttribute .model := by
    rw [h.modelEntities]
    apply List.mem_map_of_mem hx
  obtain ⟨u, hu⟩ := Option.isSome_iff_exists.1 (mem_withAttribute_iff.1 hmodel)
  exact ⟨x.entity, hu, h.named x hx, h.owned x hx p hp⟩

/-- The entities of joints have the labels of the world. -/
theorem labels (h : s.Laid w sites) :
  (s.withAttribute .joint).map (Sample.label s) = w.labels
  := by
  rw [h.jointEntities, World.labels, World.joints, ← h.models, List.map_flatMap, List.map_flatMap,
    List.flatMap_map]
  apply List.flatMap_congr
  intro x hx
  rw [← x.listed, List.map_map, List.map_map, List.map_map]
  apply List.map_congr_left
  intro p hp
  apply (label_of_isJoint (h.isJoint hx hp)).1

end Store.Laid

namespace Simulation

/-! ### Series -/

/-- The states of a run have the outline of the first one. -/
theorem Passes.outline {sim : Simulation} {o : Options} {commands : List Scheduled} {n : Nat}
    {state : Nat → Simulation} (h : sim.Passes o commands n state) {k : Nat} (hk : k ≤ n) :
  sim.store.SameOutline (state k).store
  := by
  induction k with
  | zero =>
    rw [h.start]
    apply Store.SameOutline.refl
  | succ k ih =>
    obtain ⟨network, hstate⟩ := h.tick k hk
    rw [hstate]
    apply (ih (Nat.le_of_lt hk)).trans (outline_step { state k with network } o.dt)

/-- As many samples have a label as it is found among their labels. -/
theorem length_series (samples : List Sample) (label : String) :
  (Sample.series samples label).length = (samples.map (·.joint)).count label
  := by
  rw [Sample.series, ← List.countP_eq_length_filter, List.count, List.countP_map]
  rfl

/-- A run succeeds only with options that can be used. -/
theorem fault?_of_run {sim : Simulation} {o : Options} {commands : List Scheduled}
    {samples : List Sample} (h : (sim.run o commands).result = .ok samples) :
  o.fault? = none
  := by
  rw [Option.eq_none_iff_forall_ne_some]
  intro a ha
  rw [run, ha] at h
  cases h

/-- A snapshot has the labels of the world in which the store is laid out. -/
theorem labels_snapshot {sim : Simulation} {w : World} {sites : List Site}
    (h : sim.store.Laid w sites) :
  sim.snapshot.map (·.joint) = w.labels
  := by
  rw [snapshot, Sample.ofStore, List.map_map, ← h.labels]
  rfl

/-- The snapshots of a run have the labels of the world, one after the other. -/
theorem Passes.labels {sim : Simulation} {w : World} {sites : List Site}
    (hlaid : sim.store.Laid w sites) {o : Options} {commands : List Scheduled} {n : Nat}
    {state : Nat → Simulation} (h : sim.Passes o commands n state) {ticks : List Nat}
    (hticks : ∀ k ∈ ticks, k ≤ n) :
  (ticks.flatMap fun k => (state k).snapshot).map (·.joint) = ticks.flatMap fun _ => w.labels
  := by
  rw [List.map_flatMap]
  apply List.flatMap_congr
  intro k hk
  apply labels_snapshot (hlaid.congr (h.outline (hticks k hk)))

/-- A joint of a world is a single entity of what is built. -/
theorem Built.Mirrors.exists_isJoint {w : World} {b : Built} {sites : List Site}
    {cs : List Controller} (h : b.Mirrors w sites cs) {p : World.Model × World.Joint}
    (hp : p ∈ w.joints) :
  ∃ e, ∀ e', b.simulation.store.IsJoint p.1.name p.2.name e' ↔ e' = e
  := by
  obtain ⟨m, j⟩ := p
  obtain ⟨hm, hj⟩ := World.mem_joints_iff.1 hp
  rw [← h.models] at hm
  obtain ⟨x, hx, rfl⟩ := List.mem_map.1 hm
  rw [← x.listed] at hj
  obtain ⟨q, hq, rfl⟩ := List.mem_map.1 hj
  use q.1
  intro e'
  apply h.simulation.isJoint_iff h.valid h.models hx hq

/-- The samples of a snapshot with a label are those of the entities that have it. -/
theorem series_snapshot (sim : Simulation) (label : String) :
  Sample.series sim.snapshot label
    = ((sim.store.withAttribute .joint).filter (Sample.label sim.store · = label)).map
      (Sample.ofJoint sim.store sim.clock.time)
  := by
  rw [Sample.series, snapshot, Sample.ofStore, List.filter_map]
  rfl

/-- The samples with a label are those of some snapshots one after the other. -/
theorem series_flatMap (state : Nat → Simulation) (ticks : List Nat) (label : String) :
  Sample.series (ticks.flatMap fun k => (state k).snapshot) label
    = ticks.flatMap fun k => Sample.series (state k).snapshot label
  := List.filter_flatMap

/-- The samples with the label `label` are the time series of the entity `e`: there is one of them
for each of the ticks, and the last one is that of the simulation at the end. -/
structure IsSeries (samples : List Sample) (label : String) (ticks : List Nat)
    (state : Nat → Simulation) (last : Simulation) (e : Entity) : Prop where
  series : Sample.series samples label
    = ticks.map fun k => Sample.ofJoint (state k).store (state k).clock.time e
  last : Sample.last? samples label = some (Sample.ofJoint last.store last.clock.time e)

end Simulation

/-- The label of a joint whose names run into those of no other is that of a single entity. -/
theorem Store.Laid.filter_label {s : Store} {w : World} {sites : List Simulation.Site}
    (h : s.Laid w sites) {p : World.Model × World.Joint} {e : Entity}
    (he : ∀ e', s.IsJoint p.1.name p.2.name e' ↔ e' = e)
    (halone : ∀ q ∈ w.joints, ¬ World.RunsInto p q ∧ ¬ World.RunsInto q p) :
  (s.withAttribute .joint).filter (Sample.label s · = World.label p) = [e]
  := by
  have hjoint : s.IsJoint p.1.name p.2.name e := (he e).2 rfl
  have hmem : e ∈ s.withAttribute .joint := by
    obtain ⟨owner, -, -, hjoint⟩ := hjoint
    rw [mem_withAttribute_iff, hasRecord, hjoint.joint, Option.isSome_some]
  have hlabel : ∀ e' ∈ s.withAttribute .joint, Sample.label s e' = World.label p ↔ e' = e := by
    intro e' he'
    constructor
    · intro hsame
      rw [h.jointEntities] at he'
      obtain ⟨x, hx, he'⟩ := List.mem_flatMap.1 he'
      obtain ⟨q, hq, rfl⟩ := List.mem_map.1 he'
      have hother := h.isJoint hx hq
      have hworld : (x.model, q.2) ∈ w.joints := by
        apply World.mem_joints_iff.2
        rw [← h.models, ← x.listed]
        exact ⟨List.mem_map_of_mem hx, List.mem_map_of_mem hq⟩
      rw [(Simulation.label_of_isJoint hother).1] at hsame
      rcases World.label_eq_iff (p := (x.model, q.2)).1 hsame with ⟨hmodel, hname⟩ | hrun | hrun
      · rw [← he, ← hmodel, ← hname]
        apply hother
      · exact absurd hrun (halone _ hworld).2
      · exact absurd hrun (halone _ hworld).1
    · rintro rfl
      apply (Simulation.label_of_isJoint hjoint).1
  calc (s.withAttribute .joint).filter (Sample.label s · = World.label p)
    _ = (s.withAttribute .joint).filter (· = e) := by
      apply List.filter_congr
      intro e' he'
      rw [decide_eq_decide, hlabel e' he']
    _ = [e] := by
      have hnodup : (s.withAttribute .joint).Nodup := by
        apply (s.withAttribute_increasing .joint).imp
        rintro a b hlt rfl
        exact Nat.lt_irrefl _ hlt
      rw [List.filter_eq, List.count_eq_one_of_mem hnodup hmem]
      rfl

namespace Simulation

/-- What a run of the simulation of a world records under a label.  The samples of every snapshot
have the labels of the joints of the world, and these differ exactly if no two joints have names
that run into each other.  Of every run, under a label there is one sample for each recording and
each joint with this label; if only one joint has it, then they are its time series, and the last
one is its state at the end. -/
theorem series_of_label {w : World} (hw : w.fault? = none) :
  (Entity.capacity < w.size ∧ ofWorld w = .error (.store .exhausted))
    ∨ ∃ b, ofWorld w = .ok b
      ∧ (w.labels.Nodup ↔ ∀ p ∈ w.joints, ∀ q ∈ w.joints, ¬ World.RunsInto p q)
      ∧ ∀ y, b.simulation.Reaches y → y.snapshot.map (·.joint) = w.labels
        ∧ ∀ o commands samples, (y.run o commands).result = .ok samples →
          ∃ (n : Nat) (state : Nat → Simulation) (ticks : List Nat), y.Passes o commands n state
          ∧ state n = (y.run o commands).simulation
          ∧ samples = ticks.flatMap (fun k => (state k).snapshot)
          ∧ ticks.Pairwise (· < ·) ∧ ticks.getLast? = some n
          ∧ (∀ label, (Sample.series samples label).length = ticks.length * w.labels.count label)
          ∧ ∀ p ∈ w.joints, (∀ q ∈ w.joints, ¬ World.RunsInto p q ∧ ¬ World.RunsInto q p) →
            ∃ e, (∀ k ≤ n, ∀ e', (state k).store.IsJoint p.1.name p.2.name e' ↔ e' = e)
              ∧ IsSeries samples (World.label p) ticks state (y.run o commands).simulation e
  := by
  have hvalid := World.fault?_eq_none_iff.1 hw
  rcases ofWorld_of_valid hvalid with hfull | ⟨b, hb⟩
  · exact .inl hfull
  · right
    obtain ⟨sites, cs, h⟩ := mirrors_of_ofWorld hb
    refine ⟨b, hb, hvalid.nodup_labels_iff, ?_⟩
    intro y hy
    have hlaid := (h.laid hb).congr hy.outline
    use labels_snapshot hlaid
    intro o commands samples hresult
    obtain ⟨n, hpasses, hend, hsamples⟩ := passes_of_run (fault?_of_run hresult) hresult
    have hle := le_of_mem_recorded o.recordEvery n
    refine ⟨n, _, _, hpasses, hend.symm, hsamples, (recorded_increasing _ n).1,
      (recorded_increasing _ n).2, ?_, ?_⟩
    · intro label
      rw [length_series, hsamples, hpasses.labels hlaid hle, List.count_flatMap,
        Function.comp_def, List.map_const', List.sum_replicate_nat]
    · intro p hp halone
      obtain ⟨e, he⟩ := h.exists_isJoint hp
      have hjoint : ∀ k ≤ n, ∀ e',
          (y.stateAt o commands k).store.IsJoint p.1.name p.2.name e' ↔ e' = e := by
        intro k hk e'
        rw [(hpasses.outline hk).isJoint_iff, hy.outline.isJoint_iff, he]
      have hseries : Sample.series samples (World.label p) = (recorded o.recordEvery n).map
          fun k => Sample.ofJoint (y.stateAt o commands k).store
            (y.stateAt o commands k).clock.time e := by
        rw [hsamples, series_flatMap, List.map_eq_flatMap]
        apply List.flatMap_congr
        intro k hk
        have hk := hle k hk
        rw [series_snapshot, (hlaid.congr (hpasses.outline hk)).filter_label (hjoint k hk) halone,
          List.map_singleton]
      refine ⟨e, hjoint, hseries, ?_⟩
      rw [Sample.last?, hseries, List.getLast?_map, (recorded_increasing _ n).2, hend,
        Option.map_some]

/-- A model `a` with joints `b/c` and `d`. -/
def forkedPath : World.Model where
  name := "a"
  joints := [{ name := "b/c", initialVelocity := some 1 }, { name := "d" }]

/-- A world in which a joint of the model `a/b` is called `c`, while a joint of the model `a` is
called `b/c`. -/
def forkedPaths : World where
  version := 1
  name := "bench"
  models := [forkedPath,
    { name := "a/b", joints := [{ name := "c", initialVelocity := some 2 }] }]

/-- In every run, the samples with the label of the joint `d` are its time series, and there are
twice as many with the label that the other two joints share. -/
theorem series_of_label_forkedPaths :
  forkedPaths.fault? = none ∧ ∃ b, ofWorld forkedPaths = .ok b ∧ ∀ o commands samples,
    (b.simulation.run o commands).result = .ok samples →
    (Sample.series samples "a/b/c").length = 2 * (Sample.series samples "a/d").length
      ∧ ∃ ticks state e,
        IsSeries samples "a/d" ticks state (b.simulation.run o commands).simulation e
  := by
  have hvalid : forkedPaths.fault? = none := by decide +kernel
  use hvalid
  rcases series_of_label hvalid with ⟨hfull, -⟩ | ⟨b, hb, -, hkept⟩
  · exact absurd hfull (by decide)
  · use b, hb
    intro o commands samples hsamples
    obtain ⟨-, hrun⟩ := hkept b.simulation .refl
    obtain ⟨n, state, ticks, -, -, -, -, -, hlength, hseries⟩ := hrun o commands samples hsamples
    have htwice : forkedPaths.labels.count "a/b/c" = 2 ∧ forkedPaths.labels.count "a/d" = 1 := by
      decide
    constructor
    · rw [hlength, hlength, htwice.1, htwice.2]
      omega
    · have hmem : (forkedPath, ⟨"d", none⟩) ∈ forkedPaths.joints :=
        World.mem_joints_iff.2 ⟨List.mem_cons_self, by decide⟩
      have halone : ∀ q ∈ forkedPaths.joints, ¬ World.RunsInto (forkedPath, ⟨"d", none⟩) q
          ∧ ¬ World.RunsInto q (forkedPath, ⟨"d", none⟩) := by
        intro q hq
        constructor
        · intro hrun
          exact absurd hrun.slash.2 (by decide)
        · intro hrun
          exact absurd hrun.slash.1 (by decide)
      obtain ⟨e, -, he⟩ := hseries _ hmem halone
      exact ⟨ticks, state, e, he⟩

/-- The joints `b/c` of `a` and `c` of `a/b` share a label: the snapshot has it twice, and a run has
their samples in turn under it. -/
theorem series_of_shared_label :
  forkedPaths.fault? = none ∧ ∃ b, ofWorld forkedPaths = .ok b
    ∧ ¬ (b.simulation.snapshot.map (·.joint)).Nodup
    ∧ ∃ samples, (b.simulation.run { dt := 0.5, maxSteps := 1 } []).result = .ok samples
      ∧ (Sample.series samples "a/b/c").map (·.velocity) = [some 1, some 2, some 1, some 2]
  := by
  have hruns : ((ofWorld forkedPaths).toOption.bind fun b =>
      (b.simulation.run { dt := 0.5, maxSteps := 1 } []).result.toOption.map
        fun samples => (b.simulation.snapshot.map (·.joint),
          (Sample.series samples "a/b/c").map (·.velocity)))
      = some (["a/b/c", "a/d", "a/b/c"], [some 1, some 2, some 1, some 2]) := by
    decide +kernel
  obtain ⟨b, hb, hruns⟩ := Option.bind_eq_some_iff.1 hruns
  obtain ⟨samples, hsamples, hseries⟩ := Option.map_eq_some_iff.1 hruns
  obtain ⟨hsnapshot, hvelocities⟩ := Prod.mk.inj hseries
  refine ⟨by decide +kernel, b, eq_ok_of_toOption hb, ?_, samples, eq_ok_of_toOption hsamples,
    hvelocities⟩
  rw [hsnapshot]
  decide

end Simulation

end Servo
