import Servo.Proofs.Controller.Tick
import Servo.Proofs.Store.Edit

/-!
# The life cycle of a controller

A `Scene` is a controller with a store, and a history of a scene is a list of ticks of the
controller and edits of the store in any order.  `lifeCycle` says when a controller finds
its joint, that it keeps it for ever, and that it does nothing any more once the joint was
removed.
-/

namespace Servo.Controller

/-! ### Histories -/

/-- A controller with the store on which it works. -/
structure Scene where
  controller : Controller
  store : Store

/-- Something that happens to a controller and its store. -/
inductive Occurrence where
  | tick (t : Tick Float) (b : Inboxes)
  | edit (x : Store.Edit)

namespace Scene

/-- What a tick of the controller does. -/
def tick (x : Scene) (t : Tick Float) (b : Inboxes) : Step Controller :=
  x.controller.step t b x.store

/-- The scene after an occurrence. -/
def next (x : Scene) : Occurrence → Scene
  | .tick t b => ⟨(x.tick t b).controller, (x.tick t b).store⟩
  | .edit e => { x with store := x.store.edit e }

/-- The events of an occurrence. -/
def events (x : Scene) : Occurrence → List Log.Event
  | .tick t b => (x.tick t b).events
  | .edit _ => []

/-- The scene after a history. -/
def after (x : Scene) (history : List Occurrence) : Scene := history.foldl next x

/-- The events of a history. -/
def log : Scene → List Occurrence → List Log.Event
  | _, [] => []
  | x, o :: later => x.events o ++ (x.next o).log later

/-- No tick of a history meets a joint of the model with the name. -/
def Unsighted (model : Entity) (name : String) : Scene → List Occurrence → Prop
  | _, [] => True
  | x, .tick t b :: later =>
    (∀ e, ¬ x.store.HasJoint model name e) ∧ Unsighted model name (x.next (.tick t b)) later
  | x, .edit e :: later => Unsighted model name (x.next (.edit e)) later

@[simp]
theorem after_cons (x : Scene) (o : Occurrence) (later : List Occurrence) :
  x.after (o :: later) = (x.next o).after later
  := rfl

end Scene

/-- The edits of a history. -/
def edits (history : List Occurrence) : List Store.Edit :=
  history.filterMap fun
    | .tick .. => none
    | .edit x => some x

/-- Whether an event notes that a controller found its joint. -/
def isResolution : Log.Event → Bool
  | .resolved .. => true
  | _ => false

/-! ### The events of a tick -/

/-- A tick finds the joint exactly if it was looked up and is there. -/
theorem filter_isResolution_step (a : Active) (tick : Tick Float) (b : Inboxes) (s : Store) :
  (a.step tick b s).events.filter isResolution
    = if a.resolver.handle = none then
        (a.found? s).toList.map (.resolved a.resolver.name)
      else []
  := by
  obtain ⟨faults, hevents, hfaults⟩ := a.events_step tick b s
  have hrewound : (if tick.isRewind then [Log.Event.rewound tick.dt] else []).filter isResolution
      = [] := by
    split <;> rfl
  have hfaults : faults.filter isResolution = [] := by
    rw [List.filter_eq_nil_iff]
    intro x hx
    have hx := hfaults x hx
    cases x <;> first | exact Bool.false_ne_true | cases hx
  rw [hevents, List.filter_append, List.filter_append, hrewound, hfaults, List.nil_append,
    List.append_nil, lookupEvents, Resolver.isResolved]
  cases hh : a.resolver.handle with
  | none => cases a.found? s <;> rfl
  | some joint =>
    rw [Active.found?_of_resolved hh]
    rfl

/-! ### Before the joint is found -/

namespace Scene

/-- A tick that meets no joint changes nothing. -/
theorem tick_of_missing {a : Active} (ha : a.resolver.handle = none) {s : Store}
    (h : ∀ e, ¬ s.HasJoint a.model a.resolver.name e) (t : Tick Float) (b : Inboxes) :
  next ⟨.enabled a, s⟩ (.tick t b) = ⟨.enabled a, s⟩
    ∧ (tick ⟨.enabled a, s⟩ t b).outcome = .unresolved
    ∧ (events ⟨.enabled a, s⟩ (.tick t b)).filter isResolution = []
  := by
  have hfound : a.found? s = none := by
    rw [Active.found?_of_unresolved ha, Store.jointNamed?_eq_none_iff.2 h]
  obtain ⟨hcontroller, hstore, houtcome⟩ := Active.step_of_missing hfound t b
  refine ⟨?_, houtcome, ?_⟩
  · simp only [next, tick, step, hcontroller, hstore]
  · apply Eq.trans (filter_isResolution_step a t b s)
    rw [if_pos ha, hfound]
    rfl

/-- As long as no tick meets a joint, the controller stays as it is and the store is what
the edits make of it. -/
theorem after_of_unsighted {a : Active} (ha : a.resolver.handle = none)
    (before : List Occurrence) :
    ∀ s : Store, Unsighted a.model a.resolver.name ⟨.enabled a, s⟩ before →
  after ⟨.enabled a, s⟩ before = ⟨.enabled a, (edits before).foldl Store.edit s⟩
    ∧ (log ⟨.enabled a, s⟩ before).filter isResolution = []
  := by
  induction before with
  | nil =>
    intro s _
    exact ⟨rfl, rfl⟩
  | cons o later ih =>
    intro s h
    cases o with
    | tick t b =>
      obtain ⟨hnone, hlater⟩ := h
      obtain ⟨hnext, -, hevents⟩ := tick_of_missing ha hnone t b
      rw [hnext] at hlater
      obtain ⟨hafter, hlog⟩ := ih s hlater
      rw [after_cons, log, List.filter_append, hevents, hnext, hlog]
      exact ⟨hafter, rfl⟩
    | edit x => apply ih (s.edit x) h

/-! ### After the joint was found -/

/-- The controller of a scene found the joint `e`, which was issued by the store. -/
structure Settled (x : Scene) (e : Entity) : Prop where
  joint : x.controller.joint? = some e
  issued : e.index < x.store.allocator.next

/-- A tick neither adds an entity nor removes one. -/
theorem entities_tick (x : Scene) (t : Tick Float) (b : Inboxes) :
  (x.tick t b).store.allocator = x.store.allocator
    ∧ (x.tick t b).store.entities = x.store.entities
  := by
  rcases step_cases x.controller t b x.store with ⟨-, -, h, -⟩ | ⟨a, -, -, -, h, -⟩ |
    ⟨a, joint, -, -, -, -, h, -⟩ | ⟨a, joint, -, -, -, -, h, -⟩
  · rw [tick, h]
    exact ⟨rfl, rfl⟩
  · rw [tick, h]
    exact ⟨rfl, rfl⟩
  · rw [tick, h]
    exact ⟨rfl, rfl⟩
  · rw [tick, h]
    rcases drive_cases a.actuation x.store joint (b.read a.inbox) t.dt with
      ⟨-, -, hd, -⟩ | ⟨-, -, hw, -⟩ | ⟨g, -, -, -, hd, -⟩ | ⟨g, observed, -, -, -, hw, -⟩
    · rw [hd]
      exact ⟨rfl, rfl⟩
    · use hw.allocator, hw.entities
    · rw [hd]
      exact ⟨rfl, rfl⟩
    · use hw.allocator, hw.entities

theorem has_tick (x : Scene) (t : Tick Float) (b : Inboxes) (e : Entity) :
  (x.tick t b).store.has e = x.store.has e
  := by
  rw [Bool.eq_iff_iff, ← Store.mem_entities_iff, ← Store.mem_entities_iff,
    (entities_tick x t b).2]

/-- A controller that found its joint keeps it, and does not find it again. -/
theorem Settled.next {x : Scene} {e : Entity} (h : x.Settled e) (o : Occurrence) :
  (x.next o).Settled e ∧ (x.events o).filter isResolution = []
  := by
  cases o with
  | edit y =>
    refine ⟨⟨h.joint, ?_⟩, rfl⟩
    apply Nat.lt_of_lt_of_le h.issued (Store.next_le_next_edit x.store y)
  | tick t b =>
    have hissued : e.index < (x.tick t b).store.allocator.next := by
      rw [(entities_tick x t b).1]
      apply h.issued
    obtain ⟨c, s⟩ := x
    cases c with
    | disabled => cases h.joint
    | enabled a =>
      have hhandle : a.resolver.handle = some e := h.joint
      refine ⟨⟨?_, hissued⟩, ?_⟩
      · apply Eq.trans (congrArg Resolver.handle (a.handle_step t b s))
        apply Active.found?_of_resolved hhandle
      · apply Eq.trans (filter_isResolution_step a t b s)
        rw [if_neg (by simp [hhandle])]

/-- A joint that was found is kept through every history. -/
theorem Settled.after {x : Scene} {e : Entity} (h : x.Settled e) (later : List Occurrence) :
  (x.after later).Settled e ∧ (x.log later).filter isResolution = []
  := by
  induction later generalizing x with
  | nil => exact ⟨h, rfl⟩
  | cons o later ih =>
    obtain ⟨hnext, hevents⟩ := h.next o
    obtain ⟨hafter, hlog⟩ := ih hnext
    use hafter
    rw [log, List.filter_append, hevents, hlog, List.append_nil]

/-- A joint that was removed never comes back. -/
theorem Settled.has_after {x : Scene} {e : Entity} (h : x.Settled e)
    (hgone : x.store.has e = false) (later : List Occurrence) :
  (x.after later).store.has e = false
  := by
  induction later generalizing x with
  | nil => apply hgone
  | cons o later ih =>
    apply ih (h.next o).1
    cases o with
    | tick t b => rw [Scene.next, has_tick, hgone]
    | edit y => apply Store.has_edit_of_issued h.issued hgone

/-- Without its joint a controller does nothing. -/
theorem Settled.tick_of_gone {x : Scene} {e : Entity} (h : x.Settled e)
    (hgone : x.store.has e = false) (t : Tick Float) (b : Inboxes) :
  (x.tick t b).outcome = (if t.paused then .paused else .storeFault)
    ∧ (x.tick t b).store = x.store
    ∧ (x.tick t b).controller = x.controller
  := by
  obtain ⟨c, s⟩ := x
  cases c with
  | disabled => cases h.joint
  | enabled a =>
    have hhandle : a.resolver.handle = some e := h.joint
    have hkeep : a.withJoint (some e) = a := by
      rw [Active.withJoint, ← hhandle]
    have hfound := Active.found?_of_resolved hhandle s
    cases hp : t.paused with
    | true =>
      obtain ⟨hc, hs, ho⟩ := Active.step_of_paused hfound hp b
      rw [hkeep] at hc
      use ho, hs, congrArg Controller.enabled hc
    | false =>
      obtain ⟨hc, hs, ho⟩ := Active.step_of_running hfound hp b
      obtain ⟨hdc, hds, hdo⟩ := drive_of_not_has hgone a.actuation (b.read a.inbox) t.dt
      rw [hdc, hkeep] at hc
      rw [hds] at hs
      rw [hdo] at ho
      use ho, hs, congrArg Controller.enabled hc

/-! ### Finding the joint -/

/-- A tick that meets a joint finds the one with the lowest index. -/
theorem next_of_sighted {a : Active} (ha : a.resolver.handle = none) {s : Store} {e : Entity}
    (h : s.HasJoint a.model a.resolver.name e)
    (hleast : ∀ e', s.HasJoint a.model a.resolver.name e' → e.index ≤ e'.index)
    (t : Tick Float) (b : Inboxes) :
  (next ⟨.enabled a, s⟩ (.tick t b)).Settled e
    ∧ (events ⟨.enabled a, s⟩ (.tick t b)).filter isResolution
      = [.resolved a.resolver.name e]
  := by
  have hfound : a.found? s = some e := by
    rw [Active.found?_of_unresolved ha]
    apply Store.jointNamed?_eq_some_iff.2 ⟨h, hleast⟩
  constructor
  · constructor
    case joint => apply (congrArg Resolver.handle (a.handle_step t b s)).trans hfound
    case issued =>
      rw [next, (entities_tick _ t b).1]
      apply Store.index_lt_of_has (Store.has_of_get? h.joint)
  · apply Eq.trans (filter_isResolution_step a t b s)
    rw [if_pos ha, hfound]
    rfl

/-- From a scene on, the controller has the joint `e` for good, whatever happens: it never
looks for one again, and once `e` was removed it never does anything again. -/
structure Bound (x : Scene) (e : Entity) : Prop where
  joint : ∀ later, (x.after later).controller.joint? = some e
  resolution : ∀ later, (x.log later).filter isResolution = []
  gone : ∀ later, (x.after later).store.has e = false → ∀ further t b,
    let y := (x.after later).after further
    (y.tick t b).outcome = (if t.paused then .paused else .storeFault)
      ∧ (y.tick t b).store = y.store
      ∧ (y.tick t b).controller = y.controller

/-- A controller that found its joint is bound to it. -/
theorem Settled.bound {x : Scene} {e : Entity} (h : x.Settled e) :
  x.Bound e
  := by
  constructor
  case joint =>
    intro later
    apply (h.after later).1.joint
  case resolution =>
    intro later
    apply (h.after later).2
  case gone =>
    intro later hgone further t b
    have hlater := (h.after later).1
    apply (hlater.after further).1.tick_of_gone
    apply hlater.has_after hgone

end Scene

/-- A configured controller has no joint, and neither it nor its ticks change anything, as
long as no tick meets a joint of its model with its name.  The first tick that meets one
finds the one with the lowest index, notes that once, and binds the controller to it. -/
theorem lifeCycle {a : Active} (ha : a.resolver.handle = none) (s : Store)
    (before : List Occurrence)
    (hbefore : Scene.Unsighted a.model a.resolver.name ⟨.enabled a, s⟩ before) :
  Scene.after ⟨.enabled a, s⟩ before = ⟨.enabled a, (edits before).foldl Store.edit s⟩
    ∧ (Scene.after ⟨.enabled a, s⟩ before).controller.joint? = none
    ∧ (Scene.log ⟨.enabled a, s⟩ before).filter isResolution = []
    ∧ ∀ (t : Tick Float) (b : Inboxes),
      let x := Scene.after ⟨.enabled a, s⟩ before
      ((∀ e, ¬ x.store.HasJoint a.model a.resolver.name e) →
          (x.tick t b).outcome = .unresolved ∧ x.next (.tick t b) = x)
        ∧ ((∃ e, x.store.HasJoint a.model a.resolver.name e) →
          ∃ e, x.store.HasJoint a.model a.resolver.name e
            ∧ (∀ e', x.store.HasJoint a.model a.resolver.name e' → e.index ≤ e'.index)
            ∧ (x.next (.tick t b)).controller.joint? = some e
            ∧ (x.events (.tick t b)).filter isResolution = [.resolved a.resolver.name e]
            ∧ (x.next (.tick t b)).Bound e)
  := by
  obtain ⟨hafter, hlog⟩ := Scene.after_of_unsighted ha before s hbefore
  rw [hafter]
  use rfl, ha, hlog
  intro t b x
  constructor
  · intro hnone
    obtain ⟨hnext, houtcome, -⟩ := Scene.tick_of_missing ha hnone t b
    use houtcome, hnext
  · rintro ⟨e₀, he₀⟩
    cases hfound : x.store.jointNamed? a.model a.resolver.name with
    | none => exact absurd he₀ (Store.jointNamed?_eq_none_iff.1 hfound e₀)
    | some e =>
      obtain ⟨he, hleast⟩ := Store.jointNamed?_eq_some_iff.1 hfound
      obtain ⟨hsettled, hevents⟩ := Scene.next_of_sighted ha he hleast t b
      exact ⟨e, he, hleast, hsettled.joint, hevents, hsettled.bound⟩

/-- A controller of the joint `wheel` of the first model. -/
def wheelController : Active where
  model := ⟨0, by decide⟩
  resolver := { name := "wheel" }
  inbox := ⟨0⟩
  actuation := .force {}
  topic := "/cmd"
  subscribed := true

/-- The joint `wheel` is added only after two ticks. -/
def lateWheel : List Occurrence :=
  [.tick (.first 1) {}, .edit (.spawnModel "cart"), .tick (.first 1) {},
    .edit (.addJoint ⟨0, by decide⟩ "wheel")]

/-- The late joint is found by the third tick, and nothing is done after it was removed. -/
theorem lifeCycle_lateWheel :
  wheelController.resolver.handle = none
    ∧ Scene.Unsighted wheelController.model "wheel" ⟨.enabled wheelController, .empty⟩ lateWheel
    ∧ let x := Scene.after ⟨.enabled wheelController, .empty⟩ lateWheel
      let y := x.next (.tick (.first 1) {})
      x.controller.joint? = none ∧ y.controller.joint? = some ⟨1, by decide⟩
        ∧ ∀ further t b,
          (((y.after [.edit (.remove ⟨1, by decide⟩)]).after further).tick t b).outcome
            = if t.paused then .paused else .storeFault
  := by
  have hunsighted : Scene.Unsighted wheelController.model wheelController.resolver.name
      ⟨.enabled wheelController, .empty⟩ lateWheel := by
    refine ⟨?_, ?_, trivial⟩
    · apply Store.jointNamed?_eq_none_iff.1 (by decide +kernel)
    · apply Store.jointNamed?_eq_none_iff.1 (by decide +kernel)
  obtain ⟨-, hjoint, -, htick⟩ := lifeCycle (a := wheelController) rfl .empty lateWheel hunsighted
  have hsighted : Store.jointNamed?
      (Scene.after ⟨.enabled wheelController, .empty⟩ lateWheel).store wheelController.model
        wheelController.resolver.name = some ⟨1, by decide⟩ := by
    decide +kernel
  have hwheel := Store.jointNamed?_eq_some_iff.1 hsighted
  obtain ⟨e, he, hleast, hfound, -, hbound⟩ := (htick (.first 1) {}).2 ⟨_, hwheel.1⟩
  have hfirst := Store.jointNamed?_eq_some_iff.2 ⟨he, hleast⟩
  obtain rfl : e = ⟨1, by decide⟩ := Option.some.inj (hfirst.symm.trans hsighted)
  use rfl, hunsighted, hjoint, hfound
  intro further t b
  have hgone := hbound.gone [.edit (.remove ⟨1, by decide⟩)] (by decide +kernel) further t b
  apply hgone.1

end Servo.Controller
