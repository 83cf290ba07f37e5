import Mathlib.Data.List.Forall2
import Servo.Proofs.Controller.Setup
import Servo.Proofs.Simulation.Bench
import Servo.Proofs.Store.Edit
import Servo.Proofs.World.Valid
import Servo.Simulation.Build

/-!
# What is built from a world

A `Site` is a model of a world together with the entities that were created for it.  An
assembly `Mirrors` some sites if its store has their entities one after the other, and its
controllers are those of their plugins.  `ofWorld_eq_ok` says that the simulation of a world
mirrors the models of the world.
-/

namespace Servo.Simulation

open Controller

/-! ### Sites -/

/-- A model of a world with the entities of the model and of its joints. -/
structure Site where
  model : World.Model
  entity : Entity
  joints : List (Entity × World.Joint)
  listed : joints.map (·.2) = model.joints

/-- The records of a joint at the start. -/
def jointRecords (model : Entity) (j : World.Joint) : Records where
  name := some j.name
  joint := some ()
  parent := some model
  velocity := j.initialVelocity.map ([·])

/-- The records of a model. -/
def modelRecords (name : String) : Records where
  name := some name
  model := some ()

theorem model_of_records? {s : Store} {e : Entity} {name : String}
    (h : s.records? e = some (modelRecords name)) :
  s.get? e .model = some () ∧ s.get? e .name = some name
  := by
  rw [Store.get?_eq_of_records? h, Store.get?_eq_of_records? h]
  exact ⟨rfl, rfl⟩

theorem hasJoint_of_records? {s : Store} {e model : Entity} {j : World.Joint}
    (h : s.records? e = some (jointRecords model j)) :
  s.HasJoint model j.name e
  := by
  constructor
  case joint => rw [Store.get?_eq_of_records? h]; rfl
  case parent => rw [Store.get?_eq_of_records? h]; rfl
  case name => rw [Store.get?_eq_of_records? h]; rfl

/-- What is a joint and has the records of a joint has them under its model and its name. -/
theorem of_hasJoint {s : Store} {e owner model : Entity} {name : String} {j : World.Joint}
    (h : s.records? e = some (jointRecords model j)) (hjoint : s.HasJoint owner name e) :
  owner = model ∧ name = j.name
  := by
  have hparent := hjoint.parent
  have hname := hjoint.name
  rw [Store.get?_eq_of_records? h] at hparent hname
  use (Option.some.inj hparent).symm, (Option.some.inj hname).symm

namespace Site

/-- The entries of the joints of a site. -/
def jointEntries (x : Site) : List (Entity × Records) :=
  x.joints.map fun p => (p.1, jointRecords x.entity p.2)

/-- The entries of a site, first that of the model. -/
def entries (x : Site) : List (Entity × Records) :=
  (x.entity, modelRecords x.model.name) :: x.jointEntries

/-- The plugins of a site. -/
def plugins (x : Site) : List (Site × World.Plugin) := x.model.plugins.map (x, ·)

end Site

/-- A controller is the one of a plugin of a model: it is installed with the configuration
of the plugin, or disabled if that has none. -/
def InstalledAs (n : Network) (model : Entity) (name : String) (p : World.Plugin)
    (c : Controller) : Prop :=
  match Config.ofParams p.params with
  | .ok config => ∃ a, c = .enabled a ∧ Installed n model name config a
  | .error _ => c = .disabled

/-- The controller of a plugin stays so when the network grows. -/
theorem InstalledAs.grows {n n' : Network} {model : Entity} {name : String}
    {p : World.Plugin} {c : Controller} (h : InstalledAs n model name p c)
    (hgrows : n.Grows n') :
  InstalledAs n' model name p c
  := by
  rw [InstalledAs] at h ⊢
  split
  next config hp =>
    rw [hp] at h
    obtain ⟨a, rfl, h⟩ := h
    exact ⟨a, rfl, h.grows hgrows⟩
  next e hp =>
    rw [hp] at h
    apply h

namespace Assembly

/-- An assembly has the entities of some sites and the controllers of their plugins. -/
structure Mirrors (a : Assembly) (sites : List Site) : Prop where
  entries : a.store.entries = sites.flatMap Site.entries
  closed : a.network.Closed
  controllers : List.Forall₂
    (fun (p : Site × World.Plugin) c => InstalledAs a.network p.1.entity p.1.model.name p.2 c)
    (sites.flatMap Site.plugins) a.controllers

/-! ### Joints -/

/-- A joint is one more entity. -/
theorem addJoint_eq_ok {model : Entity} {a b : Assembly} {j : World.Joint}
    (h : a.addJoint model j = .ok b) :
  (∃ e, b.store.entries = a.store.entries ++ [(e, jointRecords model j)])
    ∧ b.network = a.network ∧ b.controllers = a.controllers ∧ b.events = a.events
  := by
  rw [addJoint] at h
  obtain ⟨⟨e, t⟩, hadd, h⟩ := eq_ok_of_bind h
  have hextends := Store.addJoint_eq_ok hadd
  cases hv : j.initialVelocity with
  | none =>
    simp only [hv] at h
    cases h
    refine ⟨⟨e, ?_⟩, rfl, rfl, rfl⟩
    rw [hextends.entries, jointRecords, hv]
    rfl
  | some v =>
    simp only [hv] at h
    obtain ⟨u, hput, h⟩ := eq_ok_of_bind h
    cases h
    obtain ⟨-, rfl⟩ := Store.put_eq_ok_iff.1 hput
    refine ⟨⟨e, ?_⟩, rfl, rfl, rfl⟩
    rw [(hextends.adjust _).entries, jointRecords, hv]
    rfl

/-- The joints of a model are added one after the other. -/
theorem foldlM_addJoint {model : Entity} {joints : List World.Joint} {a b : Assembly}
    (h : joints.foldlM (addJoint model) a = .ok b) :
  (∃ l : List (Entity × World.Joint), l.map (·.2) = joints
      ∧ b.store.entries = a.store.entries ++ l.map fun p => (p.1, jointRecords model p.2))
    ∧ b.network = a.network ∧ b.controllers = a.controllers ∧ b.events = a.events
  := by
  induction joints generalizing a with
  | nil =>
    cases h
    exact ⟨⟨[], rfl, by simp⟩, rfl, rfl, rfl⟩
  | cons j rest ih =>
    rw [List.foldlM_cons] at h
    obtain ⟨c, hj, h⟩ := eq_ok_of_bind h
    obtain ⟨⟨e, hentries⟩, hnetwork, hcontrollers, hevents⟩ := addJoint_eq_ok hj
    obtain ⟨⟨l, hl, hlater⟩, hnetwork', hcontrollers', hevents'⟩ := ih h
    refine ⟨⟨(e, j) :: l, ?_, ?_⟩, ?_, ?_, ?_⟩
    · rw [List.map_cons, hl]
    · rw [hlater, hentries, List.append_assoc, List.map_cons]
      rfl
    · rw [hnetwork', hnetwork]
    · rw [hcontrollers', hcontrollers]
    · rw [hevents', hevents]

/-! ### Plugins -/

/-- What became of a plugin: its controller, and what was said when it was configured. -/
structure Fate where
  controller : Controller
  events : List Log.Event

/-- This became of a plugin of a model with the name `name` on the way to a network. -/
def Configured (network : Network) (model : Entity) (name : String) (p : World.Plugin)
    (y : Fate) : Prop :=
  ∃ s n, s.isModel model = true ∧ s.name? model = some name ∧ n.Closed
    ∧ (configure model p.params s n).2.1.Grows network
    ∧ y.controller = (configure model p.params s n).1
    ∧ y.events = (configure model p.params s n).2.2

/-- What became of a plugin stays so when the network grows. -/
theorem Configured.grows {n n' : Network} {model : Entity} {name : String} {p : World.Plugin}
    {y : Fate} (h : Configured n model name p y) (hgrows : n.Grows n') :
  Configured n' model name p y
  := by
  obtain ⟨s, before, hmodel, hname, hclosed, hnetwork, hy⟩ := h
  exact ⟨s, before, hmodel, hname, hclosed, hnetwork.trans hgrows, hy⟩

/-- The controller that became of a plugin is the one of the plugin. -/
theorem Configured.installedAs {n : Network} {model : Entity} {name : String} {p : World.Plugin}
    {y : Fate} (h : Configured n model name p y) :
  InstalledAs n model name p y.controller
  := by
  obtain ⟨s, before, hmodel, hname, hclosed, hgrows, hcontroller, -⟩ := h
  rw [InstalledAs, hcontroller]
  split
  next config hp =>
    obtain ⟨-, -, a, ha, hinstalled⟩ := configure_of_ok hp hmodel hname hclosed
    exact ⟨a, ha, hinstalled.grows hgrows⟩
  next e hp => exact (configure_of_error hp model s before).1

/-- Plugins become controllers one after the other, and the store stays as it is. -/
theorem foldl_addPlugin {model : Entity} {name : String} (plugins : List World.Plugin)
    {a : Assembly} (hmodel : a.store.isModel model = true)
    (hname : a.store.name? model = some name) (hclosed : a.network.Closed) :
  let b := plugins.foldl (addPlugin model) a
  b.store = a.store ∧ b.network.Closed ∧ a.network.Grows b.network
    ∧ ∃ ys : List Fate, b.controllers = a.controllers ++ ys.map (·.controller)
      ∧ b.events = a.events ++ ys.flatMap (·.events)
      ∧ List.Forall₂ (Configured b.network model name) plugins ys
  := by
  induction plugins generalizing a with
  | nil =>
    exact ⟨rfl, hclosed, .refl _, [], (List.append_nil _).symm, (List.append_nil _).symm, .nil⟩
  | cons p rest ih =>
    let c := configure model p.params a.store a.network
    have hstep : a.addPlugin model p =
        ⟨a.store, c.2.1, a.controllers ++ [c.1], a.events ++ c.2.2⟩ := rfl
    obtain ⟨hclosed', hgrows⟩ := grows_configure p.params hmodel hname hclosed
    rw [List.foldl_cons, hstep]
    obtain ⟨hstore, hclosed'', hgrows', ys, hcontrollers, hevents, hrest⟩ :=
      ih (a := ⟨a.store, c.2.1, a.controllers ++ [c.1], a.events ++ c.2.2⟩) hmodel hname hclosed'
    refine ⟨hstore, hclosed'', hgrows.trans hgrows', ⟨c.1, c.2.2⟩ :: ys, ?_, ?_, ?_⟩
    · rw [hcontrollers, List.append_assoc]
      rfl
    · rw [hevents, List.append_assoc]
      rfl
    · exact .cons ⟨a.store, a.network, hmodel, hname, hclosed, hgrows', rfl, rfl⟩ hrest

/-! ### Models -/

/-- A model is created together with its joints, and then its plugins become controllers. -/
theorem addModel_eq_ok {a b : Assembly} {m : World.Model} (hclosed : a.network.Closed)
    (h : a.addModel m = .ok b) :
  b.network.Closed ∧ a.network.Grows b.network
    ∧ ∃ (x : Site) (ys : List Fate), x.model = m
      ∧ b.store.entries = a.store.entries ++ x.entries
      ∧ b.controllers = a.controllers ++ ys.map (·.controller)
      ∧ b.events = a.events ++ ys.flatMap (·.events)
      ∧ List.Forall₂ (Configured b.network x.entity m.name) m.plugins ys
  := by
  rw [addModel] at h
  obtain ⟨⟨e, t⟩, hspawn, h⟩ := eq_ok_of_bind h
  obtain ⟨c, hjoints, h⟩ := eq_ok_of_bind h
  cases h
  obtain ⟨⟨l, hl, hentries⟩, hnetwork, hcontrollers, hevents⟩ := foldlM_addJoint hjoints
  let x : Site := ⟨m, e, l, hl⟩
  have hall : c.store.entries = a.store.entries ++ x.entries := by
    rw [hentries, (Store.spawnModel_eq_ok hspawn).entries, List.append_assoc]
    rfl
  have hrecords : c.store.records? e = some (modelRecords m.name) := by
    apply Store.records?_eq_some_iff.2
    rw [hall]
    apply List.mem_append_right _ List.mem_cons_self
  obtain ⟨hmodel, hname⟩ := model_of_records? hrecords
  have hisModel : c.store.isModel e = true := by
    rw [Store.isModel, Store.hasRecord, hmodel, Option.isSome_some]
  have hclosed : c.network.Closed := hnetwork ▸ hclosed
  obtain ⟨hstore, hclosed', hgrows, ys, hcontrollers', hevents', hfates⟩ :=
    foldl_addPlugin m.plugins hisModel hname hclosed
  rw [hnetwork] at hgrows
  rw [hcontrollers] at hcontrollers'
  rw [hevents] at hevents'
  exact ⟨hclosed', hgrows, x, ys, rfl, hstore ▸ hall, hcontrollers', hevents', hfates⟩

/-- A model becomes a site. -/
theorem Mirrors.addModel {a b : Assembly} {sites : List Site} (h : a.Mirrors sites)
    {m : World.Model} (hm : a.addModel m = .ok b) :
  ∃ x : Site, x.model = m ∧ b.Mirrors (sites ++ [x])
  := by
  obtain ⟨hclosed, hgrows, x, ys, rfl, hentries, hcontrollers, -, hfates⟩ :=
    addModel_eq_ok h.closed hm
  use x, rfl
  constructor
  case entries => rw [hentries, h.entries, List.flatMap_append, List.flatMap_singleton]
  case closed => apply hclosed
  case controllers =>
    rw [hcontrollers, List.flatMap_append, List.flatMap_singleton]
    apply List.rel_append
    · apply h.controllers.imp
      intro p c hp
      apply hp.grows hgrows
    · apply List.forall₂_map_left_iff.2
      apply List.forall₂_map_right_iff.2
      apply hfates.imp
      intro p y hy
      apply hy.installedAs

/-- The models of a list become sites one after the other. -/
theorem Mirrors.foldlM {models : List World.Model} {a b : Assembly} {sites : List Site}
    (h : a.Mirrors sites) (hb : models.foldlM Assembly.addModel a = .ok b) :
  ∃ l : List Site, l.map (·.model) = models ∧ b.Mirrors (sites ++ l)
  := by
  induction models generalizing a sites with
  | nil =>
    cases hb
    exact ⟨[], rfl, by rw [List.append_nil]; exact h⟩
  | cons m rest ih =>
    rw [List.foldlM_cons] at hb
    obtain ⟨c, hm, hrest⟩ := eq_ok_of_bind hb
    obtain ⟨x, rfl, hx⟩ := h.addModel hm
    obtain ⟨l, hl, hlater⟩ := ih hx hrest
    refine ⟨x :: l, ?_, ?_⟩
    · rw [List.map_cons, hl]
    · rw [List.append_assoc] at hlater
      apply hlater

/-- An assembly without anything mirrors no site. -/
theorem mirrors_empty :
  ({} : Assembly).Mirrors []
  := by
  constructor
  case entries => rfl
  case closed =>
    intro t i hi
    cases hi
  case controllers => exact .nil

end Assembly

/-! ### The simulation of a world -/

/-- A simulation that mirrors some sites: it has their entities and the controllers of their
plugins, and it is at its start. -/
structure Mirrors (sim : Simulation) (d : Dynamics Float) (sites : List Site)
    (cs : List Controller) : Prop where
  entries : sim.store.entries = sites.flatMap Site.entries
  controllers : List.Forall₂
    (fun (p : Site × World.Plugin) c =>
      InstalledAs sim.network p.1.entity p.1.model.name p.2 c)
    (sites.flatMap Site.plugins) cs
  rigged : sim.Rigged cs d
  time : sim.clock.time = 0

/-- Only valid worlds are built, and what is built has the parts of an assembly to which the models
were added one after the other. -/
theorem assembly_of_ofWorld {w : World} {b : Built} (h : ofWorld w = .ok b) :
  w.Valid ∧ ∃ a : Assembly, w.models.foldlM Assembly.addModel {} = .ok a
    ∧ b.simulation = {
      store := a.store
      network := a.network
      systems := a.systems ⟨w.physics.inertia, w.physics.damping⟩ }
    ∧ b.schedule = schedule w.commands
    ∧ b.events = a.events ++ b.simulation.systems.map (fun system => .systemAdded system.name)
      ++ [.worldBuilt w.name w.models.length a.controllers.length]
  := by
  rw [ofWorld] at h
  cases hfault : w.fault? with
  | some f =>
    rw [hfault] at h
    cases h
  | none =>
    have hvalid := World.fault?_eq_none_iff.1 hfault
    rw [hfault] at h
    obtain ⟨-, -, h⟩ := eq_ok_of_bind h
    obtain ⟨a, ha, h⟩ := eq_ok_of_bind h
    rw [hvalid.ofNumbers] at h
    cases hmodels : w.models.foldlM Assembly.addModel {} with
    | error e =>
      rw [hmodels] at ha
      cases ha
    | ok a' =>
      rw [hmodels] at ha
      cases ha
      cases h
      exact ⟨hvalid, _, rfl, rfl, rfl, rfl⟩

/-- Only valid worlds are built, and the simulation mirrors the models of the world. -/
theorem ofWorld_eq_ok {w : World} {b : Built} (h : ofWorld w = .ok b) :
  w.Valid ∧ b.schedule = schedule w.commands
    ∧ ∃ sites cs, sites.map (·.model) = w.models
      ∧ b.simulation.Mirrors ⟨w.physics.inertia, w.physics.damping⟩ sites cs
  := by
  obtain ⟨hvalid, a, hmodels, hsimulation, hschedule, -⟩ := assembly_of_ofWorld h
  obtain ⟨sites, hsites, hmirrors⟩ := Assembly.mirrors_empty.foldlM hmodels
  use hvalid, hschedule, sites, a.controllers, hsites
  rw [hsimulation]
  exact ⟨hmirrors.entries, hmirrors.controllers, ⟨rfl, rfl, rfl⟩, rfl⟩

end Servo.Simulation
