import Servo.Proofs.Simulation.Assembly

/-!
# The layout of a simulation

In the simulation of a world every joint of the document is one entity
(`Mirrors.isJoint_iff`), and the controllers that drive it are those of the plugins of its
model which name it, in the order of the document (`Mirrors.drivers`).
-/

namespace Servo

/-- The configurations with which the plugins of a model drive a joint, in the order of the
document.  A plugin whose parameters give no configuration drives nothing. -/
def World.Model.driving (m : World.Model) (joint : String) : List Controller.Config :=
  (m.plugins.filterMap fun p => (Controller.Config.ofParams p.params).toOption).filter
    (·.joint = joint)

/-- An entity is the joint with a name of a model with a name. -/
def Store.IsJoint (s : Store) (model joint : String) (e : Entity) : Prop :=
  ∃ owner, s.get? owner .model = some () ∧ s.get? owner .name = some model
    ∧ s.HasJoint owner joint e

namespace Simulation

open Controller

/-! ### Entities -/

/-- The models of some sites are among the entities. -/
theorem sublist_entities (sites : List Site) :
  (sites.map (·.entity)).Sublist ((sites.flatMap Site.entries).map (·.1))
  := by
  induction sites with
  | nil => exact .slnil
  | cons x rest ih =>
    rw [List.flatMap_cons, List.map_append, List.map_cons, Site.entries, List.map_cons]
    apply List.Sublist.cons_cons
    apply ih.trans
    apply List.sublist_append_right

namespace Mirrors

variable {sim : Simulation} {d : Dynamics Float} {sites : List Site} {cs : List Controller}

/-- Different sites have different models. -/
theorem eq_of_entity_eq (h : sim.Mirrors d sites cs) {x y : Site} (hx : x ∈ sites)
    (hy : y ∈ sites) (hxy : x.entity = y.entity) :
  x = y
  := by
  have hnodup : (sites.map (·.entity)).Nodup := by
    apply List.Nodup.sublist (sublist_entities sites)
    rw [← h.entries]
    apply Store.nodup_entities
  apply List.inj_on_of_nodup_map hnodup hx hy hxy

theorem records?_of_mem (h : sim.Mirrors d sites cs) {x : Site} (hx : x ∈ sites)
    {e : Entity} {r : Records} (hr : (e, r) ∈ x.entries) :
  sim.store.records? e = some r
  := by
  apply Store.records?_eq_some_iff.2
  rw [h.entries]
  apply List.mem_flatMap.2 ⟨x, hx, hr⟩

theorem records?_joint (h : sim.Mirrors d sites cs) {x : Site} (hx : x ∈ sites)
    {p : Entity × World.Joint} (hp : p ∈ x.joints) :
  sim.store.records? p.1 = some (jointRecords x.entity p.2)
  := by
  apply h.records?_of_mem hx
  apply List.mem_cons_of_mem _ (List.mem_map.2 ⟨p, hp, rfl⟩)

/-- The records of an entity are those of a model or of a joint of a site. -/
theorem cases_of_records? (h : sim.Mirrors d sites cs) {e : Entity} {r : Records}
    (hr : sim.store.records? e = some r) :
  ∃ x ∈ sites, (e = x.entity ∧ r = modelRecords x.model.name)
    ∨ ∃ p ∈ x.joints, e = p.1 ∧ r = jointRecords x.entity p.2
  := by
  have hmem := Store.records?_eq_some_iff.1 hr
  rw [h.entries] at hmem
  obtain ⟨x, hx, hentry⟩ := List.mem_flatMap.1 hmem
  use x, hx
  rcases List.mem_cons.1 hentry with heq | hentry
  · cases heq
    exact .inl ⟨rfl, rfl⟩
  · obtain ⟨p, hp, heq⟩ := List.mem_map.1 hentry
    cases heq
    exact .inr ⟨p, hp, rfl, rfl⟩

/-- The joints of the model of a site are those of the site. -/
theorem hasJoint_iff (h : sim.Mirrors d sites cs) {x : Site} (hx : x ∈ sites) {name : String}
    {e : Entity} :
  sim.store.HasJoint x.entity name e ↔ ∃ p ∈ x.joints, p.1 = e ∧ p.2.name = name
  := by
  constructor
  · intro hjoint
    obtain ⟨r, hr, htag⟩ := Option.bind_eq_some_iff.1 hjoint.joint
    obtain ⟨y, hy, ⟨-, rfl⟩ | ⟨p, hp, rfl, rfl⟩⟩ := h.cases_of_records? hr
    · cases htag
    · obtain ⟨hentity, rfl⟩ := of_hasJoint hr hjoint
      obtain rfl := h.eq_of_entity_eq hx hy hentity
      use p, hp
  · rintro ⟨p, hp, rfl, rfl⟩
    apply hasJoint_of_records? (h.records?_joint hx hp)

/-- A joint is known by the names of its model and of itself. -/
theorem isJoint_iff (h : sim.Mirrors d sites cs) {w : World} (hw : w.Valid)
    (hsites : sites.map (·.model) = w.models) {x : Site} (hx : x ∈ sites)
    {p : Entity × World.Joint} (hp : p ∈ x.joints) {e : Entity} :
  sim.store.IsJoint x.model.name p.2.name e ↔ e = p.1
  := by
  have hmodels : (sites.map (·.model.name)).Nodup := by
    have := hw.distinct
    rw [← hsites, List.map_map] at this
    apply this
  have hjoints : (x.joints.map (·.2.name)).Nodup := by
    have hmem : x.model ∈ w.models := by
      rw [← hsites]
      apply List.mem_map.2 ⟨x, hx, rfl⟩
    have := (hw.models x.model hmem).distinct
    rw [← x.listed, List.map_map] at this
    apply this
  constructor
  · rintro ⟨owner, hmodel, hname, hjoint⟩
    obtain ⟨r, hr, htag⟩ := Option.bind_eq_some_iff.1 hmodel
    obtain ⟨y, hy, ⟨rfl, rfl⟩ | ⟨q, -, rfl, rfl⟩⟩ := h.cases_of_records? hr
    · have hsame := (model_of_records? hr).2.symm.trans hname
      obtain rfl := List.inj_on_of_nodup_map hmodels hy hx (Option.some.inj hsame)
      obtain ⟨q, hq, rfl, hnames⟩ := (h.hasJoint_iff hy).1 hjoint
      rw [List.inj_on_of_nodup_map hjoints hq hp hnames]
    · cases htag
  · rintro rfl
    obtain ⟨hmodel, hname⟩ := model_of_records? (h.records?_of_mem hx List.mem_cons_self)
    exact ⟨x.entity, hmodel, hname, (h.hasJoint_iff hx).2 ⟨p, hp, rfl, rfl⟩⟩

/-- A joint of a site is looked up under its model and its name and nowhere else. -/
theorem jointNamed?_eq_some_iff (h : sim.Mirrors d sites cs) {w : World} (hw : w.Valid)
    (hsites : sites.map (·.model) = w.models) {x : Site} (hx : x ∈ sites)
    {p : Entity × World.Joint} (hp : p ∈ x.joints) {owner : Entity} {name : String} :
  sim.store.jointNamed? owner name = some p.1 ↔ owner = x.entity ∧ name = p.2.name
  := by
  have hr := h.records?_joint hx hp
  constructor
  · intro hnamed
    apply of_hasJoint hr (Store.jointNamed?_eq_some_iff.1 hnamed).1
  · rintro ⟨rfl, rfl⟩
    apply Store.HasJoint.jointNamed? (hasJoint_of_records? hr)
    intro e he
    obtain ⟨hmodel, hname⟩ := model_of_records? (h.records?_of_mem hx List.mem_cons_self)
    apply (h.isJoint_iff hw hsites hx hp).1
    exact ⟨x.entity, hmodel, hname, he⟩

/-! ### Drivers -/

/-- The configuration with which a plugin drives a joint of the model `owner`, if it does. -/
def drivingConfig? (owner : Entity) (joint : String) (q : Site × World.Plugin) :
    Option Config :=
  (Config.ofParams q.2.params).toOption.filter fun c => q.1.entity = owner ∧ c.joint = joint

/-- A controller drives a joint exactly if its plugin does. -/
theorem driver?_eq (h : sim.Mirrors d sites cs) {w : World} (hw : w.Valid)
    (hsites : sites.map (·.model) = w.models) {x : Site} (hx : x ∈ sites)
    {p : Entity × World.Joint} (hp : p ∈ x.joints) {q : Site × World.Plugin} (hq : q.1 ∈ sites)
    {c : Controller}
    (hc : InstalledAs sim.network q.1.entity q.1.model.name q.2 c) :
  (drivingConfig? x.entity p.2.name q = none ∧ driver? sim.store p.1 c = none)
    ∨ ∃ config a, drivingConfig? x.entity p.2.name q = some config
      ∧ driver? sim.store p.1 c = some a
      ∧ Installed sim.network x.entity x.model.name config a
  := by
  rw [InstalledAs] at hc
  rw [drivingConfig?]
  cases hconfig : Config.ofParams q.2.params with
  | error e =>
    rw [hconfig] at hc
    cases hc
    exact .inl ⟨rfl, rfl⟩
  | ok config =>
    rw [hconfig] at hc
    obtain ⟨a, rfl, ha⟩ := hc
    have hfound : a.found? sim.store = sim.store.jointNamed? q.1.entity config.joint := by
      rw [Active.found?_of_unresolved (by rw [ha.resolver]), ha.model, ha.resolver]
    have hnamed : a.found? sim.store = some p.1
        ↔ q.1.entity = x.entity ∧ config.joint = p.2.name := by
      rw [hfound]
      apply h.jointNamed?_eq_some_iff hw hsites hx hp
    by_cases hdrives : q.1.entity = x.entity ∧ config.joint = p.2.name
    · right
      have hsite := h.eq_of_entity_eq hq hx hdrives.1
      rw [hsite] at ha
      refine ⟨config, a, ?_, driver?_eq_some_iff.2 ⟨rfl, hnamed.2 hdrives⟩, ha⟩
      simp [Except.toOption, hdrives]
    · left
      constructor
      · simpa [Except.toOption, Option.filter_eq_none_iff] using hdrives
      · apply Option.eq_none_iff_forall_ne_some.2
        intro a' hdriver
        obtain ⟨heq, hfound'⟩ := driver?_eq_some_iff.1 hdriver
        cases heq
        apply hdrives (hnamed.1 hfound')

/-- Only the plugins of its own model drive a joint. -/
theorem filterMap_drivingConfig? (h : sim.Mirrors d sites cs) {x : Site} (hx : x ∈ sites)
    (joint : String) :
  (sites.flatMap Site.plugins).filterMap (drivingConfig? x.entity joint)
    = x.model.driving joint
  := by
  have hother : ∀ y ∈ sites, y ≠ x →
      y.plugins.filterMap (drivingConfig? x.entity joint) = [] := by
    intro y hy hne
    apply List.filterMap_eq_nil_iff.2
    intro q hq
    obtain ⟨p, -, rfl⟩ := List.mem_map.1 hq
    have hentity : y.entity ≠ x.entity := fun heq => hne (h.eq_of_entity_eq hy hx heq)
    simp [drivingConfig?, hentity]
  have hown : x.plugins.filterMap (drivingConfig? x.entity joint) = x.model.driving joint := by
    rw [Site.plugins, List.filterMap_map, World.Model.driving, List.filter_filterMap]
    simp only [drivingConfig?, Function.comp_def, true_and]
  have hnodup : sites.Nodup := by
    apply List.Nodup.of_map (·.entity)
    apply List.Nodup.sublist (sublist_entities sites)
    rw [← h.entries]
    apply Store.nodup_entities
  obtain ⟨before, after, hsplit⟩ := List.append_of_mem hx
  rw [hsplit] at hnodup hother
  obtain ⟨-, hcons, hapart⟩ := List.nodup_append.1 hnodup
  have hbefore : before.flatMap (fun y => y.plugins.filterMap (drivingConfig? x.entity joint))
      = [] := by
    apply List.flatMap_eq_nil_iff.2
    intro y hy
    apply hother y (List.mem_append_left _ hy) (hapart y hy x List.mem_cons_self)
  have hafter : after.flatMap (fun y => y.plugins.filterMap (drivingConfig? x.entity joint))
      = [] := by
    apply List.flatMap_eq_nil_iff.2
    intro y hy
    apply hother y (List.mem_append_right _ (List.mem_cons_of_mem _ hy))
    rintro rfl
    apply (List.nodup_cons.1 hcons).1 hy
  rw [List.filterMap_flatMap, hsplit, List.flatMap_append, List.flatMap_cons, hbefore, hafter,
    hown, List.nil_append, List.append_nil]

/-- The drivers of a joint are the controllers of the plugins of its model that name it. -/
theorem drivers (h : sim.Mirrors d sites cs) {w : World} (hw : w.Valid)
    (hsites : sites.map (·.model) = w.models) {x : Site} (hx : x ∈ sites)
    {p : Entity × World.Joint} (hp : p ∈ x.joints) :
  List.Forall₂ (Installed sim.network x.entity x.model.name) (x.model.driving p.2.name)
    (Controller.drivers sim.store p.1 cs)
  := by
  rw [← h.filterMap_drivingConfig? hx]
  have hall : ∀ q ∈ sites.flatMap Site.plugins, q.1 ∈ sites := by
    intro q hq
    obtain ⟨y, hy, hmem⟩ := List.mem_flatMap.1 hq
    obtain ⟨r, -, rfl⟩ := List.mem_map.1 hmem
    apply hy
  have hdrives : ∀ q ∈ sites.flatMap Site.plugins, ∀ c,
      InstalledAs sim.network q.1.entity q.1.model.name q.2 c → _ :=
    fun q hq c hc => h.driver?_eq hw hsites hx hp (hall q hq) hc
  have hcontrollers := h.controllers
  clear h hall
  generalize sites.flatMap Site.plugins = plugins at hdrives hcontrollers
  induction hcontrollers with
  | nil => exact .nil
  | @cons q c rest later hc _ ih =>
    have hlater := ih fun q' hq' => hdrives q' (List.mem_cons_of_mem _ hq')
    rw [Controller.drivers]
    rcases hdrives q List.mem_cons_self c hc with ⟨hconfig, hdriver⟩ |
      ⟨config, a, hconfig, hdriver, ha⟩
    · rw [List.filterMap_cons_none hconfig, List.filterMap_cons_none hdriver]
      apply hlater
    · rw [List.filterMap_cons_some hconfig, List.filterMap_cons_some hdriver]
      exact .cons ha hlater

end Mirrors

end Simulation

end Servo
