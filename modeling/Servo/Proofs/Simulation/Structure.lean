import Servo.Proofs.Simulation.Capacity
import Servo.Proofs.Simulation.ForceLimits
import Servo.Proofs.Simulation.Snapshot

/-!
# The structure of a simulation

The store of a simulation is `Laid` out as its world is written: every model is one entity, its
joints are the next ones, and nothing else is an entity.  `structure_kept` says that a world is
built in this way, and that the entities, the lookups of joints and the duties of the controllers
stay the same whatever is done with the simulation.
-/

namespace Servo

namespace Store

/-! ### The numbers of entities -/

/-- If no entity was removed from a store, then the entities are numbered in the order of their
creation. -/
theorem indices_entities {s : Store} (h : s.allocator.next = s.entities.length) :
  s.entities.map (·.index) = List.range s.entities.length
  := by
  have hincreasing : (s.entities.map (·.index)).Pairwise (· < ·) := by
    rw [entities, List.map_map]
    apply List.pairwise_map.2 s.increasing
  have hbound : ∀ k ∈ s.entities.map (·.index), k < s.entities.length := by
    intro k hk
    obtain ⟨e, he, rfl⟩ := List.mem_map.1 hk
    obtain ⟨p, hp, rfl⟩ := List.mem_map.1 he
    rw [← h]
    apply s.issued p hp
  have hsub : s.entities.map (·.index) ⊆ List.range s.entities.length := by
    intro k hk
    apply List.mem_range.2 (hbound k hk)
  have hperm : (s.entities.map (·.index)).Perm (List.range s.entities.length) := by
    apply (List.subperm_of_subset (hincreasing.imp Nat.ne_of_lt) hsub).perm_of_length_le
    simp
  apply hperm.eq_of_pairwise' (hincreasing.imp Nat.le_of_lt)
  apply List.pairwise_lt_range.imp Nat.le_of_lt

end Store

namespace Controller

/-! ### Duties -/

/-- What a controller has to do: the joint that it drives is known by its name and its model, and
the set-points come from an inbox that may be subscribed to a topic. -/
structure Duty where
  model : Entity
  joint : String
  mode : Mode
  inbox : Inbox
  topic : String
  subscribed : Bool

/-- The duty of a controller, unless it is disabled. -/
def duty? (c : Controller) : Option Duty :=
  c.active?.map fun a =>
    ⟨a.model, a.resolver.name, a.actuation.mode, a.inbox, a.topic, a.subscribed⟩

/-- A tick keeps the duty of a controller. -/
theorem duty?_step (c : Controller) (tick : Tick Float) (b : Inboxes) (s : Store) :
  (c.step tick b s).controller.duty? = c.duty?
  := by
  cases c with
  | disabled => rfl
  | enabled a =>
    obtain ⟨hmodel, hinbox, htopic, hsubscribed⟩ := a.wiring_step tick b s
    have hjoint := congrArg Resolver.name (a.handle_step tick b s)
    have hmode : (a.step tick b s).controller.actuation.mode = a.actuation.mode :=
      Option.some.inj (mode?_step (.enabled a) tick b s)
    rw [duty?, duty?, step, active?, active?, Option.map_some, Option.map_some, hmodel, hjoint,
      hmode, hinbox, htopic, hsubscribed]

theorem duty?_pass (tick : Tick Float) (b : Inboxes) (cs : List Controller) (s : Store) :
  (pass tick b cs s).1.map duty? = cs.map duty?
  := by
  induction cs generalizing s with
  | nil => rfl
  | cons c rest ih => rw [pass, List.map_cons, List.map_cons, duty?_step, ih]

end Controller

/-! ### The layout of a store -/

/-- The entities of a site, first that of the model. -/
def Simulation.Site.entities (x : Simulation.Site) : List Entity := x.entity :: x.joints.map (·.1)

open Simulation

/-- The store of a simulation is laid out as a world is written.  Every model of the world is the
entity of a site, and the joints of the model are the next entities; these are numbered one after
the other, and there are no others.  A joint is looked up in the store just as in the model. -/
structure Store.Laid (s : Store) (w : World) (sites : List Site) : Prop where
  models : sites.map (·.model) = w.models
  entities : s.entities = sites.flatMap Site.entities
  numbered : s.entities.map (·.index) = List.range w.size
  modelEntities : s.withAttribute .model = sites.map (·.entity)
  jointEntities : s.withAttribute .joint = sites.flatMap fun x => x.joints.map (·.1)
  named : ∀ x ∈ sites, s.name? x.entity = some x.model.name
  owned : ∀ x ∈ sites, ∀ p ∈ x.joints, s.HasJoint x.entity p.2.name p.1
  found : ∀ x ∈ sites, ∀ name e,
    s.jointNamed? x.entity name = some e ↔ ∃ p ∈ x.joints, p.1 = e ∧ p.2.name = name
  missing : ∀ x ∈ sites, ∀ name,
    s.jointNamed? x.entity name = none ↔ ∀ j ∈ x.model.joints, j.name ≠ name

/-- A store is laid out in its outline. -/
theorem Store.Laid.congr {s t : Store} {w : World} {sites : List Site} (h : s.Laid w sites)
    (hst : s.SameOutline t) :
  t.Laid w sites
  := by
  have hmodel : Attribute.IsOutline .model := by rintro q ⟨⟩
  have hjoint : Attribute.IsOutline .joint := by rintro q ⟨⟩
  have hname : Attribute.IsOutline .name := by rintro q ⟨⟩
  constructor
  case models => apply h.models
  case entities => rw [hst.entities, h.entities]
  case numbered => rw [hst.entities, h.numbered]
  case modelEntities => rw [hst.withAttribute hmodel, h.modelEntities]
  case jointEntities => rw [hst.withAttribute hjoint, h.jointEntities]
  case named =>
    intro x hx
    rw [Store.name?, hst.record _ hname]
    apply h.named x hx
  case owned =>
    intro x hx p hp
    apply hst.hasJoint_iff.2 (h.owned x hx p hp)
  case found =>
    intro x hx name e
    rw [hst.jointNamed?, h.found x hx]
  case missing =>
    intro x hx name
    rw [hst.jointNamed?, h.missing x hx]

namespace Simulation

open Controller

/-! ### What is built -/

/-- The models of a simulation that mirrors some sites are those of the sites. -/
theorem Mirrors.withAttribute_model {sim : Simulation} {d : Dynamics Float} {sites : List Site}
    {cs : List Controller} (h : sim.Mirrors d sites cs) :
  sim.store.withAttribute .model = sites.map (·.entity)
  := by
  rw [Store.withAttribute, h.entries, List.filter_flatMap, List.map_flatMap, List.map_eq_flatMap]
  congr 1
  funext x
  have hnone : x.jointEntries.filter (fun p => (p.2.get? .model).isSome) = [] := by
    rw [List.filter_eq_nil_iff]
    intro p hp
    obtain ⟨q, -, rfl⟩ := List.mem_map.1 hp
    simp [jointRecords, Records.get?]
  rw [Site.entries, List.filter_cons_of_pos rfl, hnone]
  rfl

/-- What is built from a world has issued one entity for each model and each joint. -/
theorem next_of_ofWorld {w : World} {b : Built} (hb : ofWorld w = .ok b) :
  b.simulation.store.allocator.next = w.size
  := by
  obtain ⟨-, a, ha, hsimulation, -⟩ := assembly_of_ofWorld hb
  obtain ⟨hok, hfull⟩ := foldlM_addModel_cases w
  rw [hsimulation]
  rcases Nat.lt_or_ge Entity.capacity w.size with hroom | hroom
  · cases ha.symm.trans (hfull hroom)
  · obtain ⟨a', ha', hnext⟩ := hok hroom
    cases ha.symm.trans ha'
    apply hnext

/-- The store of a simulation that was built from a world is laid out as the world is written. -/
theorem Built.Mirrors.laid {w : World} {b : Built} {sites : List Site} {cs : List Controller}
    (h : b.Mirrors w sites cs) (hb : ofWorld w = .ok b) :
  b.simulation.store.Laid w sites
  := by
  have hentities : b.simulation.store.entities = sites.flatMap Site.entities := by
    rw [Store.entities, h.simulation.entries, List.map_flatMap]
    congr 1
    funext x
    rw [Site.entries, Site.jointEntries, List.map_cons, List.map_map]
    rfl
  have hlength : b.simulation.store.entities.length = w.size := by
    rw [hentities, List.length_flatMap, World.size, ← h.models, List.map_map]
    congr 2
    funext x
    rw [Site.entities, List.length_cons, List.length_map, Function.comp_apply, ← x.listed,
      List.length_map]
  have hfound : ∀ x ∈ sites, ∀ name e, b.simulation.store.jointNamed? x.entity name = some e
      ↔ ∃ p ∈ x.joints, p.1 = e ∧ p.2.name = name := by
    intro x hx name e
    constructor
    · intro hnamed
      apply (h.simulation.hasJoint_iff hx).1 (Store.jointNamed?_eq_some_iff.1 hnamed).1
    · rintro ⟨p, hp, rfl, rfl⟩
      apply (h.simulation.jointNamed?_eq_some_iff h.valid h.models hx hp).2 ⟨rfl, rfl⟩
  constructor
  case models => apply h.models
  case entities => apply hentities
  case numbered =>
    rw [Store.indices_entities, hlength]
    rw [next_of_ofWorld hb, hlength]
  case modelEntities => apply h.simulation.withAttribute_model
  case jointEntities => apply h.simulation.withAttribute_joint
  case named =>
    intro x hx
    apply (model_of_records? (h.simulation.records?_of_mem hx List.mem_cons_self)).2
  case owned =>
    intro x hx p hp
    apply (h.simulation.hasJoint_iff hx).2 ⟨p, hp, rfl, rfl⟩
  case found => apply hfound
  case missing =>
    intro x hx name
    rw [Option.eq_none_iff_forall_ne_some]
    simp only [ne_eq, hfound x hx, ← x.listed, List.forall_mem_map]
    constructor
    · intro hnone p hp hname
      apply hnone p.1 ⟨p, hp, rfl, hname⟩
    · rintro hnone e ⟨p, hp, -, hname⟩
      apply hnone p hp hname

/-- The sample of a joint of a model at the start. -/
def startSample (m : World.Model) (j : World.Joint) : Sample where
  time := 0
  joint := m.name ++ "/" ++ j.name
  velocity := j.initialVelocity
  velocityCommand := none
  forceCommand := none

/-- At the start a snapshot has the samples of all joints with their initial velocities. -/
theorem Built.Mirrors.snapshot_start {w : World} {b : Built} {sites : List Site}
    {cs : List Controller} (h : b.Mirrors w sites cs) :
  b.simulation.snapshot = w.models.flatMap fun m => m.joints.map (startSample m)
  := by
  have hstart : ∀ dt m, w.sampleAt m dt 0 = startSample m := by
    intro dt m
    funext j
    obtain ⟨name, v⟩ := j
    cases v <;> rfl
  have ho : Options.fault? {} = none := by decide +kernel
  have hall : b.simulation.snapshot
      = w.models.flatMap fun m => m.joints.map (w.sampleAt m (Options.dt {}) 0) :=
    h.snapshot_eq ho rfl
  rw [hall]
  simp only [hstart]

/-! ### What is kept -/

/-- Whatever is done with a simulation, its controllers keep their duties and stay in front of the
dynamics. -/
theorem Reaches.duties {x y : Simulation} (h : x.Reaches y) {cs : List Controller}
    {d : Dynamics Float} (hx : x.systems = cs.map .controller ++ [.dynamics d]) :
  ∃ cs' : List Controller, y.systems = cs'.map .controller ++ [.dynamics d]
    ∧ cs'.map duty? = cs.map duty?
  := by
  induction h with
  | refl => exact ⟨cs, hx, rfl⟩
  | @step y _ dt ih =>
    obtain ⟨cs', hsystems, hduties⟩ := ih
    refine ⟨_, (step_eq hsystems dt).1, ?_⟩
    rw [duty?_pass, hduties]
  | setPaused _ paused ih => apply ih
  | seek _ time ih => apply ih
  | publish _ hp ih => apply ih

/-- **A simulation has the structure of its world.**  A valid world is built unless there are not
enough entities for it, and then its store is laid out as the world is written, a snapshot has all
joints with their initial velocities, and the systems are the controllers of the plugins in the
order of the document, with the dynamics behind them.  Whatever is done with the simulation, and
every run is among that, the store keeps this layout and all records but the quantities, and the
systems stay the same ones with the same duties. -/
theorem structure_kept {w : World} (hw : w.fault? = none) :
  (Entity.capacity < w.size ∧ ofWorld w = .error (.store .exhausted))
    ∨ ∃ b sites cs, ofWorld w = .ok b
      ∧ b.simulation.snapshot = w.models.flatMap (fun m => m.joints.map (startSample m))
      ∧ List.Forall₂
        (fun (p : Site × World.Plugin) c =>
          InstalledAs b.simulation.network p.1.entity p.1.model.name p.2 c)
        (sites.flatMap Site.plugins) cs
      ∧ b.simulation.systems = cs.map .controller ++ [.dynamics (dynamicsOf w.physics)]
      ∧ ∀ y, b.simulation.Reaches y →
        y.store.Laid w sites ∧ b.simulation.store.SameOutline y.store
          ∧ (∃ cs' : List Controller, y.systems
              = cs'.map .controller ++ [.dynamics (dynamicsOf w.physics)]
            ∧ cs'.map duty? = cs.map duty?)
          ∧ ∀ o commands, b.simulation.Reaches (y.run o commands).simulation
  := by
  rcases ofWorld_of_valid (World.fault?_eq_none_iff.1 hw) with hfull | ⟨b, hb⟩
  · exact .inl hfull
  · right
    obtain ⟨sites, cs, h⟩ := mirrors_of_ofWorld hb
    have hsystems := h.simulation.rigged.systems
    refine ⟨b, sites, cs, hb, h.snapshot_start, h.simulation.controllers, hsystems, ?_⟩
    intro y hy
    refine ⟨(h.laid hb).congr hy.outline, hy.outline, hy.duties hsystems, ?_⟩
    intro o commands
    apply hy.trans (samples_of_run y o commands).1

/-- A world with two models whose wheels have the same name. -/
def coupledCarts : World where
  version := 1
  name := "road"
  models := [
    { name := "cart", joints := [{ name := "wheel", initialVelocity := some 2 }] },
    { name := "trailer", joints := [{ name := "wheel" }, { name := "axle" }] }]

/-- After any run the five entities of the world are numbered from zero to four, and a joint whose
name is that of none is found in neither model. -/
theorem structure_kept_coupledCarts :
  coupledCarts.fault? = none ∧ ∃ b, ofWorld coupledCarts = .ok b ∧ ∀ o commands,
    let s := (b.simulation.run o commands).simulation.store
    s.entities.map (·.index) = [0, 1, 2, 3, 4]
      ∧ ∀ e ∈ s.withAttribute .model, s.jointNamed? e "spoke" = none
  := by
  have hvalid : coupledCarts.fault? = none := by decide +kernel
  use hvalid
  rcases structure_kept hvalid with ⟨hfull, -⟩ | ⟨b, sites, cs, hb, -, -, -, hkept⟩
  · exact absurd hfull (by decide)
  · use b, hb
    intro o commands s
    obtain ⟨-, -, -, hrun⟩ := hkept b.simulation .refl
    obtain ⟨hlaid, -⟩ := hkept _ (hrun o commands)
    use hlaid.numbered
    intro e he
    have hmodels : e ∈ sites.map (·.entity) := by
      rw [← hlaid.modelEntities]
      apply he
    obtain ⟨x, hx, rfl⟩ := List.mem_map.1 hmodels
    have hmem : x.model ∈ coupledCarts.models := by
      rw [← hlaid.models]
      apply List.mem_map_of_mem hx
    have hspokes : ∀ m ∈ coupledCarts.models, ∀ j ∈ m.joints, j.name ≠ "spoke" := by decide
    apply (hlaid.missing x hx "spoke").2 (hspokes x.model hmem)

end Simulation

end Servo
