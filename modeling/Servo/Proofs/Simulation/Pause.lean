import Mathlib.Data.List.Forall2
import Servo.Proofs.Simulation.Bench
import Servo.Proofs.Store.Edit

/-!
# Paused simulations

While its clock is paused, a simulation may be stepped, but a step does no more than find joints
that would be found later anyway.  Simulations that differ in that only are `Simulation.Alike`, and
they stay alike whatever is done with both.  `paused_steps_stutter` says that the steps of a paused
clock can be left out of a history without a difference for all other operations.
-/

namespace Servo

open Controller

/-! ### Controllers that are alike -/

namespace Controller

/-- Two controllers that are the same but for the joint: one of them may have found already what
the other one would find in the store. -/
inductive Alike (s : Store) : Controller → Controller → Prop where
  | disabled : Alike s .disabled .disabled
  | enabled {a a' : Active} (same : a'.withJoint none = a.withJoint none)
    (found : a'.found? s = a.found? s) : Alike s (.enabled a) (.enabled a')

theorem Alike.refl (s : Store) (c : Controller) :
  Alike s c c
  := by
  cases c with
  | disabled => exact .disabled
  | enabled a => exact .enabled rfl rfl

/-- Controllers are alike on stores of the same outline. -/
theorem Alike.congr {s t : Store} (hst : s.SameOutline t) {c c' : Controller}
    (h : Alike s c c') :
  Alike t c c'
  := by
  cases h with
  | disabled => exact .disabled
  | enabled same found =>
    refine .enabled same ?_
    rw [Active.found?_congr hst, Active.found?_congr hst, found]

/-- Without a joint nothing is said about the joint. -/
theorem Active.withJoint_none {a : Active} {s : Store} (h : a.found? s = none) :
  a.withJoint none = a
  := by
  have hnone : a.resolver.handle = none := by
    cases hr : a.resolver.handle with
    | none => rfl
    | some joint =>
      rw [found?_of_resolved hr] at h
      cases h
  rw [withJoint, ← hnone]

/-- Controllers that are alike are the same once they have the same joint. -/
theorem Active.withJoint_congr {a a' : Active} (h : a'.withJoint none = a.withJoint none)
    (joint : Option Entity) :
  a'.withJoint joint = a.withJoint joint
  := congrArg (·.withJoint joint) h

/-- After a tick controllers that are alike are the same, and they did the same. -/
theorem Alike.step {s : Store} {c c' : Controller} (h : Alike s c c') (tick : Tick Float)
    (b : Inboxes) :
  (c'.step tick b s).controller = (c.step tick b s).controller
    ∧ (c'.step tick b s).store = (c.step tick b s).store
    ∧ (c'.step tick b s).outcome = (c.step tick b s).outcome
  := by
  cases h with
  | disabled => exact ⟨rfl, rfl, rfl⟩
  | @enabled a a' same found =>
    rw [Controller.step, Controller.step]
    cases hfound : a.found? s with
    | none =>
      obtain ⟨hc, hs, ho⟩ := Active.step_of_missing hfound tick b
      obtain ⟨hc', hs', ho'⟩ := Active.step_of_missing (found.trans hfound) tick b
      have hsame : a' = a := by
        rw [← Active.withJoint_none hfound, ← same, Active.withJoint_none (found.trans hfound)]
      rw [hc, hc', hs, hs', ho, ho', hsame]
      exact ⟨rfl, rfl, rfl⟩
    | some joint =>
      have hsame := Active.withJoint_congr same (some joint)
      cases hpaused : tick.paused with
      | true =>
        obtain ⟨hc, hs, ho⟩ := Active.step_of_paused hfound hpaused b
        obtain ⟨hc', hs', ho'⟩ := Active.step_of_paused (found.trans hfound) hpaused b
        simp only [hc, hc', hs, hs', ho, ho', hsame, and_self]
      | false =>
        obtain ⟨hc, hs, ho⟩ := Active.step_of_running hfound hpaused b
        obtain ⟨hc', hs', ho'⟩ := Active.step_of_running (found.trans hfound) hpaused b
        have hactuation : a'.actuation = a.actuation := (congrArg Active.actuation same :)
        have hinbox : a'.inbox = a.inbox := (congrArg Active.inbox same :)
        simp only [hc, hc', hs, hs', ho, ho', hsame, hactuation, hinbox, and_self]

/-- In a paused tick a controller stays like those that it was like. -/
theorem Alike.step_of_paused {s : Store} {c c' : Controller} (h : Alike s c c')
    {tick : Tick Float} (hpaused : tick.paused = true) (b : Inboxes) :
  Alike s (c.step tick b s).controller c'
  := by
  cases h with
  | disabled => exact .disabled
  | @enabled a a' same found =>
    rw [Controller.step]
    cases hfound : a.found? s with
    | none =>
      rw [(Active.step_of_missing hfound tick b).1]
      exact .enabled same found
    | some joint =>
      rw [(Active.step_of_paused hfound hpaused b).1]
      refine .enabled same ?_
      rw [found, hfound]
      symm
      apply Active.found?_of_resolved
      rfl

end Controller

/-! ### Systems that are alike -/

/-- What a controller did, if an event says so. -/
def Log.Event.outcome? : Log.Event → Option Outcome
  | .ticked outcome => some outcome
  | _ => none

namespace System

/-- Two systems that are the same, but for joints that controllers have found. -/
inductive Alike (s : Store) : System → System → Prop where
  | controller {c c' : Controller} (alike : c.Alike s c') : Alike s (.controller c) (.controller c')
  | dynamics (d : Dynamics Float) : Alike s (.dynamics d) (.dynamics d)

theorem Alike.refl (s : Store) (x : System) :
  Alike s x x
  := by
  cases x with
  | controller c => exact .controller (.refl s c)
  | dynamics d => exact .dynamics d

theorem Alike.congr {s t : Store} (hst : s.SameOutline t) {x y : System} (h : Alike s x y) :
  Alike t x y
  := by
  cases h with
  | controller alike => exact .controller (alike.congr hst)
  | dynamics d => exact .dynamics d

/-- A controller says once in a tick what it did, and dynamics say nothing. -/
theorem filterMap_outcome?_prepare (x : System) (tick : Tick Float) (b : Inboxes) (s : Store) :
  (x.prepare tick b s).2.2.filterMap Log.Event.outcome?
    = match x with
      | .controller c => [(c.step tick b s).outcome]
      | .dynamics _ => []
  := by
  cases x with
  | dynamics d => rfl
  | controller c =>
    have hsilent : (c.step tick b s).events.filterMap Log.Event.outcome? = [] := by
      apply List.filterMap_eq_nil_iff.2
      intro x hx
      have hnote := isNote_of_mem_events_step hx
      cases x <;> first | rfl | cases hnote
    rw [prepare, List.filterMap_append, hsilent]
    rfl

/-- Systems that are alike prepare a tick in the same way, and then they are the same. -/
theorem Alike.prepare {s : Store} {x y : System} (h : Alike s x y) (tick : Tick Float)
    (b : Inboxes) :
  (y.prepare tick b s).1 = (x.prepare tick b s).1
    ∧ (y.prepare tick b s).2.1 = (x.prepare tick b s).2.1
    ∧ (y.prepare tick b s).2.2.filterMap Log.Event.outcome?
      = (x.prepare tick b s).2.2.filterMap Log.Event.outcome?
  := by
  rw [filterMap_outcome?_prepare, filterMap_outcome?_prepare]
  cases h with
  | dynamics d => exact ⟨rfl, rfl, rfl⟩
  | controller alike =>
    obtain ⟨hcontroller, hstore, houtcome⟩ := alike.step tick b
    refine ⟨congrArg System.controller hcontroller, hstore, ?_⟩
    simp only [houtcome]

/-- Lists of systems that are alike prepare a tick in the same way, and then they are the same. -/
theorem inPhase_of_alike {s : Store} {xs ys : List System}
    (h : List.Forall₂ (Alike s) xs ys) (tick : Tick Float) (b : Inboxes) :
  (hooks.inPhase .prepare tick b s ys).1 = (hooks.inPhase .prepare tick b s xs).1
    ∧ (hooks.inPhase .prepare tick b s ys).2.1 = (hooks.inPhase .prepare tick b s xs).2.1
    ∧ (hooks.inPhase .prepare tick b s ys).2.2.filterMap Log.Event.outcome?
      = (hooks.inPhase .prepare tick b s xs).2.2.filterMap Log.Event.outcome?
  := by
  induction xs generalizing s ys with
  | nil =>
    cases h
    exact ⟨rfl, rfl, rfl⟩
  | cons x rest ih =>
    cases h with
    | cons hx hrest =>
      obtain ⟨hsystem, hstore, houtcomes⟩ := hx.prepare tick b
      have hlater := hrest.imp fun _ _ hy => hy.congr (Simulation.outline_prepare x tick b s)
      obtain ⟨hsystems, hstore', houtcomes'⟩ := ih hlater
      simp only [inPhase_cons, hsystem, hstore, hsystems, hstore', List.filterMap_append,
        houtcomes, houtcomes', and_self]

/-- Preparing a paused tick keeps the store, and systems stay like those that they were like. -/
theorem inPhase_of_paused {s : Store} {xs ys : List System}
    (h : List.Forall₂ (Alike s) xs ys) {tick : Tick Float} (hpaused : tick.paused = true)
    (b : Inboxes) :
  (hooks.inPhase .prepare tick b s xs).2.1 = s
    ∧ List.Forall₂ (Alike s) (hooks.inPhase .prepare tick b s xs).1 ys
  := by
  induction h with
  | nil => exact ⟨rfl, .nil⟩
  | @cons x y xs ys hx _ ih =>
    obtain ⟨hstore, hsystems⟩ := ih
    have hkept : (x.prepare tick b s).2.1 = s := by
      cases x with
      | controller c => apply store_step_of_paused hpaused
      | dynamics d => rfl
    have halike : Alike s (x.prepare tick b s).1 y := by
      cases hx with
      | controller alike => exact .controller (alike.step_of_paused hpaused b)
      | dynamics d => exact .dynamics d
    simp only [inPhase_cons, hkept]
    exact ⟨hstore, .cons halike hsystems⟩

/-- In a paused tick no system moves a joint. -/
theorem foldl_update_of_paused {tick : Tick Float} (hpaused : tick.paused = true)
    (xs : List System) (s : Store) :
  xs.foldl (fun s x => x.update tick s) s = s
  := by
  induction xs with
  | nil => rfl
  | cons x rest ih =>
    have hkept : x.update tick s = s := by
      cases x with
      | controller c => rfl
      | dynamics d => rw [update, Dynamics.update, if_pos hpaused]
    rw [List.foldl_cons, hkept, ih]

end System

namespace Simulation

/-! ### Operations -/

/-- Something that is done with a simulation.  A jump of the clock and a change of the store from
outside are none of these. -/
inductive Operation where
  | step (dt : Float)
  | setPaused (paused : Bool)
  | publish (topic : String) (v : Float)

/-- The simulation after an operation; a publication that is refused changes nothing. -/
def perform (sim : Simulation) : Operation → Simulation
  | .step dt => (sim.step dt).2.1
  | .setPaused paused => sim.setPaused paused
  | .publish topic v =>
    match sim.publish topic v with
    | .ok (_, sim, _) => sim
    | .error _ => sim

/-- The simulation after some operations. -/
def performAll (sim : Simulation) (ops : List Operation) : Simulation := ops.foldl perform sim

/-- What the controllers do in an operation, one after the other. -/
def outcomes (sim : Simulation) : Operation → List Outcome
  | .step dt => (sim.step dt).2.2.filterMap Log.Event.outcome?
  | .setPaused _ => []
  | .publish .. => []

/-- Whether an operation is a step of a paused clock. -/
def idles (sim : Simulation) : Operation → Bool
  | .step _ => sim.clock.paused
  | .setPaused _ => false
  | .publish .. => false

/-- The operations of a history without the steps of a paused clock. -/
def awake : Simulation → List Operation → List Operation
  | _, [] => []
  | sim, o :: later =>
    if sim.idles o then (sim.perform o).awake later else o :: (sim.perform o).awake later

/-- A history is cut short bit by bit. -/
theorem awake_append (sim : Simulation) (ops later : List Operation) :
  sim.awake (ops ++ later) = sim.awake ops ++ (sim.performAll ops).awake later
  := by
  induction ops generalizing sim with
  | nil => rfl
  | cons o rest ih =>
    have hlater := ih (sim.perform o)
    rw [List.cons_append, awake, awake, hlater]
    split <;> rfl

/-! ### Simulations that are alike -/

/-- Two simulations that are the same, but for joints that controllers have found: their stores,
inboxes and clocks are the same, and so are the regulators. -/
structure Alike (x y : Simulation) : Prop where
  store : y.store = x.store
  network : y.network = x.network
  clock : y.clock = x.clock
  systems : List.Forall₂ (System.Alike x.store) x.systems y.systems

theorem Alike.refl (x : Simulation) :
  x.Alike x
  := by
  use rfl, rfl, rfl
  apply List.forall₂_same.2
  intro system _
  apply System.Alike.refl

/-- After a step simulations that are alike are the same, and their controllers did the same. -/
theorem Alike.step {x y : Simulation} (h : x.Alike y) (dt : Float) :
  (y.step dt).2.1 = (x.step dt).2.1
    ∧ (y.step dt).2.2.filterMap Log.Event.outcome? = (x.step dt).2.2.filterMap Log.Event.outcome?
  := by
  obtain ⟨hsystems, hstore, houtcomes⟩ :=
    System.inPhase_of_alike h.systems (x.clock.step dt).1 x.network.inboxes
  simp only [Simulation.step, System.work_eq, h.store, h.network, h.clock, hsystems, hstore,
    houtcomes, and_self]

/-- Simulations that are alike stay so in every operation, and their controllers do the same. -/
theorem Alike.perform {x y : Simulation} (h : x.Alike y) (o : Operation) :
  (x.perform o).Alike (y.perform o) ∧ y.outcomes o = x.outcomes o
  := by
  cases o with
  | step dt =>
    obtain ⟨hsame, houtcomes⟩ := h.step dt
    refine ⟨?_, houtcomes⟩
    rw [Simulation.perform, Simulation.perform, hsame]
    apply Alike.refl
  | setPaused paused =>
    refine ⟨⟨h.store, h.network, ?_, h.systems⟩, rfl⟩
    rw [Simulation.perform, Simulation.perform, setPaused, setPaused, h.clock]
  | publish topic v =>
    refine ⟨?_, rfl⟩
    simp only [Simulation.perform, Simulation.publish, h.network]
    cases x.network.publish topic v with
    | error e => exact h
    | ok p => exact ⟨h.store, rfl, h.clock, h.systems⟩

/-- A step of a paused clock that is not to jump leaves a simulation like those that it was
like. -/
theorem Alike.perform_of_idles {x y : Simulation} (h : x.Alike y) (htarget : x.clock.target = none)
    {o : Operation} (hidles : x.idles o = true) :
  (x.perform o).Alike y
  := by
  cases o with
  | setPaused paused => cases hidles
  | publish topic v => cases hidles
  | step dt =>
    have hpaused : x.clock.paused = true := hidles
    have hclock : (x.clock.step dt).2 = x.clock := by
      simp only [Clock.step, Clock.advance, hpaused, htarget, if_true]
      rw [← hpaused, ← htarget]
    have htick : (x.clock.step dt).1.paused = true := hpaused
    obtain ⟨hstore, hsystems⟩ :=
      System.inPhase_of_paused h.systems htick x.network.inboxes
    have hkept : (x.perform (.step dt)).store = x.store := by
      simp only [Simulation.perform, Simulation.step, System.work_eq, hstore,
        System.foldl_update_of_paused htick]
    constructor
    case store => rw [hkept, h.store]
    case network => apply h.network
    case clock => rw [h.clock, ← hclock]; rfl
    case systems =>
      rw [hkept]
      simp only [Simulation.perform, Simulation.step, System.work_eq]
      apply hsystems

/-- No operation asks the clock for a jump. -/
theorem target_perform {sim : Simulation} (h : sim.clock.target = none) (o : Operation) :
  (sim.perform o).clock.target = none
  := by
  cases o with
  | step dt => rfl
  | setPaused paused => apply h
  | publish topic v =>
    rw [perform, publish]
    cases sim.network.publish topic v with
    | error e => apply h
    | ok p => apply h

theorem target_performAll {sim : Simulation} (h : sim.clock.target = none)
    (ops : List Operation) :
  (sim.performAll ops).clock.target = none
  := by
  induction ops generalizing sim with
  | nil => apply h
  | cons o rest ih => apply ih (target_perform h o)

/-- Without the steps of a paused clock a history comes to a simulation that is alike. -/
theorem Alike.performAll_awake {x y : Simulation} (h : x.Alike y)
    (htarget : x.clock.target = none) (ops : List Operation) :
  (x.performAll ops).Alike (y.performAll (x.awake ops))
  := by
  induction ops generalizing x y with
  | nil => apply h
  | cons o rest ih =>
    have hnext := target_perform htarget o
    rw [awake]
    cases hidles : x.idles o with
    | true => apply ih (h.perform_of_idles htarget hidles) hnext
    | false => apply ih (h.perform o).1 hnext

/-- Steps of a paused clock may be left out of a history of a simulation whose clock is not to
jump.  Such a step changes nothing but joints that controllers have found, and after every other
operation the simulation is like the one without these steps; all controllers did the same in the
operation. -/
theorem paused_steps_stutter {sim : Simulation} (h : sim.clock.target = none)
    (before : List Operation) (o : Operation) (later : List Operation) :
  let x := sim.performAll before
  let y := sim.performAll (sim.awake before)
  (x.idles o = true →
      sim.awake (before ++ o :: later) = sim.awake before ++ (x.perform o).awake later
        ∧ (x.perform o).Alike y)
    ∧ (x.idles o = false →
      sim.awake (before ++ o :: later) = sim.awake before ++ o :: (x.perform o).awake later
        ∧ (x.perform o).Alike (y.perform o) ∧ y.outcomes o = x.outcomes o)
  := by
  intro x y
  have halike : x.Alike y := (Alike.refl sim).performAll_awake h before
  rw [awake_append, awake]
  constructor
  · intro hidles
    rw [if_pos hidles]
    exact ⟨rfl, halike.perform_of_idles (target_performAll h before) hidles⟩
  · intro hidles
    rw [if_neg (by rw [hidles]; exact Bool.false_ne_true)]
    exact ⟨rfl, halike.perform o⟩

/-- A cart whose joint `wheel` takes velocities from the topic `/go`. -/
def haltedCart : Simulation :=
  let cart : Entity := ⟨0, Entity.capacity_pos⟩
  let store := (Store.empty.edit (.spawnModel "cart")).edit (.addJoint cart "wheel")
  let sim : Simulation := { store }
  let params := .ofList [("joint_name", .text "wheel"), ("topic", .text "/go")]
  ((sim.attach cart params).2.1.addSystem (.dynamics ⟨1, 0⟩)).1

/-- The cart finds its wheel while it is halted, and is told a velocity in between.  Without the
two steps of the pause it goes on with the same velocity. -/
theorem paused_steps_stutter_haltedCart :
  let before := [.setPaused true, .step 1, .publish "go" 2, .step 1, .setPaused false]
  let x := haltedCart.performAll before
  let y := haltedCart.performAll [.setPaused true, .publish "go" 2, .setPaused false]
  haltedCart.clock.target = none
    ∧ haltedCart.awake before = [.setPaused true, .publish "go" 2, .setPaused false]
    ∧ x.systems ≠ y.systems
    ∧ (x.perform (.step 1)).Alike (y.perform (.step 1))
    ∧ y.outcomes (.step 1) = [.velocity 2]
  := by
  intro before x y
  have htarget : haltedCart.clock.target = none := rfl
  have hawake : haltedCart.awake before = [.setPaused true, .publish "go" 2, .setPaused false] := by
    rfl
  have hidles : x.idles (.step 1) = false := by rfl
  obtain ⟨-, halike, -⟩ := (paused_steps_stutter htarget before (.step 1) []).2 hidles
  rw [hawake] at halike
  refine ⟨htarget, hawake, ?_, halike, ?_⟩
  · decide +kernel
  · decide +kernel

end Simulation

end Servo
