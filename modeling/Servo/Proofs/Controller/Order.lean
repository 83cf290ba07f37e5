import Servo.Proofs.Simulation.Bench
import Servo.Proofs.Store.Edit

/-!
# The order of controllers

Controllers that work one after the other read the same in the store, wherever they stand
(`Store.SameReadings`), so what each of them does in a pass does not depend on the others
(`controllers_pass`).  Only `Rivals`, which drive one joint in one mode, replace each other's
commands; without them the store does not depend on the order either (`store_pass_perm`).
-/

namespace Servo

/-- Two stores in which controllers read the same: they differ in commands, and in velocity
records that are zero in one of them and absent in the other. -/
structure Store.SameReadings (s t : Store) : Prop where
  outline : s.SameOutline t
  velocity : ∀ e,
    (t.get? e (.axes .velocity)).getD [0] = (s.get? e (.axes .velocity)).getD [0]

theorem Store.SameReadings.refl (s : Store) :
  s.SameReadings s
  := ⟨.refl s, fun _ => rfl⟩

/-- Readings are compared one after the other. -/
theorem Store.SameReadings.trans {s t u : Store} (hst : s.SameReadings t)
    (htu : t.SameReadings u) :
  s.SameReadings u
  := by
  constructor
  case outline => apply hst.outline.trans htu.outline
  case velocity =>
    intro e
    rw [htu.velocity, hst.velocity]

namespace Controller

/-! ### What controllers read -/

/-- Writing a command keeps what controllers read. -/
theorem CommandWritten.sameReadings {s t : Store} {joint : Entity} {q : Quantity} {v : Float}
    (h : CommandWritten s t joint q v) :
  s.SameReadings t
  := by
  use h.sameOutline
  intro e
  by_cases he : e = joint
  · rw [he, h.velocity, Option.getD_some]
  · rw [Store.get?, Store.get?, h.other e he]

/-- A tick keeps what controllers read. -/
theorem sameReadings_step (c : Controller) (tick : Tick Float) (b : Inboxes) (s : Store) :
  s.SameReadings (c.step tick b s).store
  := by
  by_cases hquiet : (c.step tick b s).outcome ∈ [Outcome.disabled, .unresolved, .paused,
      .storeFault]
  · rw [(step_of_quiet hquiet).1]
    apply Store.SameReadings.refl
  · cases ho : (c.step tick b s).outcome with
    | velocity v =>
      obtain ⟨-, -, joint, -, hwritten⟩ := step_of_velocity ho
      apply hwritten.sameReadings
    | force f =>
      obtain ⟨-, joint, g, target, observed, -, -, -, -, -, -, hwritten⟩ := step_of_force ho
      apply hwritten.sameReadings
    | disabled => simp [ho] at hquiet
    | unresolved => simp [ho] at hquiet
    | paused => simp [ho] at hquiet
    | storeFault => simp [ho] at hquiet

/-- How a joint is driven depends on its records only as far as controllers read them. -/
theorem driven_congr {r r' : Records}
    (h : (r'.get? (.axes .velocity)).getD [0] = (r.get? (.axes .velocity)).getD [0])
    (a : Actuation) (target dt : Float) :
  (a.driven r' target dt).actuation = (a.driven r target dt).actuation
    ∧ (a.driven r' target dt).outcome = (a.driven r target dt).outcome
  := by
  have haxis : (withVelocityRecord r').axis? .velocity
      = (withVelocityRecord r).axis? .velocity := by
    rw [Records.axis?, Records.axis?, get?_withVelocityRecord, get?_withVelocityRecord, h]
  cases a with
  | velocity => exact ⟨rfl, rfl⟩
  | force g =>
    rw [Actuation.driven, Actuation.driven, haxis]
    cases (withVelocityRecord r).axis? .velocity <;> exact ⟨rfl, rfl⟩

/-- A joint is driven in the same way in stores that read the same. -/
theorem drive_congr {s t : Store} (h : s.SameReadings t) (a : Actuation) (joint : Entity)
    (target dt : Float) :
  (a.drive t joint target dt).controller = (a.drive s joint target dt).controller
    ∧ (a.drive t joint target dt).outcome = (a.drive s joint target dt).outcome
  := by
  cases hr : s.records? joint with
  | none =>
    have hs := Store.records?_eq_none_iff.1 hr
    have ht := (h.outline.has joint).trans hs
    obtain ⟨hc, -, ho⟩ := drive_of_not_has hs a target dt
    obtain ⟨hc', -, ho'⟩ := drive_of_not_has ht a target dt
    rw [hc, hc', ho, ho']
    exact ⟨rfl, rfl⟩
  | some r =>
    obtain ⟨r', hr', -⟩ := h.outline.records? hr
    obtain ⟨hc, -, ho⟩ := drive_of_records? hr a target dt
    obtain ⟨hc', -, ho'⟩ := drive_of_records? hr' a target dt
    rw [hc, hc', ho, ho']
    apply driven_congr
    rw [← Store.get?_eq_of_records? hr, ← Store.get?_eq_of_records? hr', h.velocity]

/-- A controller does the same in stores that read the same. -/
theorem step_of_sameReadings {s t : Store} (h : s.SameReadings t) (c : Controller)
    (tick : Tick Float) (b : Inboxes) :
  (c.step tick b t).controller = (c.step tick b s).controller
    ∧ (c.step tick b t).outcome = (c.step tick b s).outcome
  := by
  cases c with
  | disabled => exact ⟨rfl, rfl⟩
  | enabled a =>
    have hsame := a.found?_congr h.outline
    rw [step, step]
    cases hfound : a.found? s with
    | none =>
      obtain ⟨hc, -, ho⟩ := Active.step_of_missing hfound tick b
      obtain ⟨hc', -, ho'⟩ := Active.step_of_missing (hsame.trans hfound) tick b
      simp only [hc, hc', ho, ho', and_self]
    | some joint =>
      cases hpaused : tick.paused with
      | true =>
        obtain ⟨hc, -, ho⟩ := Active.step_of_paused hfound hpaused b
        obtain ⟨hc', -, ho'⟩ := Active.step_of_paused (hsame.trans hfound) hpaused b
        simp only [hc, hc', ho, ho', and_self]
      | false =>
        obtain ⟨hc, -, ho⟩ := Active.step_of_running hfound hpaused b
        obtain ⟨hc', -, ho'⟩ := Active.step_of_running (hsame.trans hfound) hpaused b
        obtain ⟨hdc, hdo⟩ := drive_congr h a.actuation joint (b.read a.inbox) tick.dt
        simp only [hc, hc', ho, ho', hdc, hdo, and_self]

/-! ### Rivals -/

/-- The joint that a controller has after a lookup in a store. -/
def target? (s : Store) (c : Controller) : Option Entity := c.active?.bind (·.found? s)

/-- Two controllers that drive the same joint of a store in the same mode. -/
structure Rivals (s : Store) (c c' : Controller) : Prop where
  found : (c.target? s).isSome = true
  joint : c'.target? s = c.target? s
  mode : c'.mode? = c.mode?

theorem Rivals.symm {s : Store} {c c' : Controller} (h : Rivals s c c') :
  Rivals s c' c
  := ⟨h.joint ▸ h.found, h.joint.symm, h.mode.symm⟩

/-- Rivals are the same in stores of the same outline. -/
theorem rivals_congr {s t : Store} (h : s.SameOutline t) (c c' : Controller) :
  Rivals t c c' ↔ Rivals s c c'
  := by
  have htarget : ∀ c : Controller, c.target? t = c.target? s := by
    intro c
    rw [target?, target?]
    congr 1
    funext a
    apply a.found?_congr h
  constructor
  · rintro ⟨hfound, hjoint, hmode⟩
    rw [htarget] at hfound hjoint
    rw [htarget] at hjoint
    exact ⟨hfound, hjoint, hmode⟩
  · rintro ⟨hfound, hjoint, hmode⟩
    rw [← htarget] at hfound hjoint
    rw [← htarget c] at hjoint
    exact ⟨hfound, hjoint, hmode⟩

/-- Drivers of one joint are rivals if they have the same mode. -/
theorem mode_ne_of_drivers {s : Store} {e : Entity} {c c' : Controller} {a a' : Active}
    (hc : driver? s e c = some a) (hc' : driver? s e c' = some a') (h : ¬ Rivals s c c') :
  a.actuation.mode ≠ a'.actuation.mode
  := by
  obtain ⟨rfl, hfound⟩ := driver?_eq_some_iff.1 hc
  obtain ⟨rfl, hfound'⟩ := driver?_eq_some_iff.1 hc'
  intro hmode
  apply h
  constructor
  case found => exact Option.isSome_iff_exists.2 ⟨e, hfound⟩
  case joint => apply hfound'.trans hfound.symm
  case mode => apply congrArg some hmode.symm

/-! ### Two controllers -/

/-- A command besides a velocity record keeps the velocity record. -/
theorem withVelocityRecord_setAxis {q : Quantity} (hq : q ≠ .velocity) (r : Records) (x : Float) :
  withVelocityRecord ((withVelocityRecord r).setAxis q x) = (withVelocityRecord r).setAxis q x
  := by
  have hne : Attribute.axes .velocity ≠ .axes q := by
    intro heq
    cases heq
    apply hq rfl
  have hkept : ((withVelocityRecord r).setAxis q x).get? (.axes .velocity)
      = some ((r.get? (.axes .velocity)).getD [0]) := by
    rw [Records.get?_setAxis_of_ne hne, get?_withVelocityRecord]
  apply withVelocityRecord_eq_self hkept

/-- A joint that is told a velocity may be pushed before or afterwards. -/
theorem driven_force_velocity (g : Regulator) (r : Records) (u v dt : Float) :
  (Actuation.driven (.force g) (Actuation.driven .velocity r u dt).records v dt).records
    = (Actuation.driven .velocity (Actuation.driven (.force g) r v dt).records u dt).records
  := by
  have htold : ∀ r, (Actuation.driven .velocity r u dt).records
      = (withVelocityRecord r).setAxis .velocityCommand u := fun _ => rfl
  have hkept := withVelocityRecord_setAxis (q := .velocityCommand) (by decide) r u
  have hobserved : ((withVelocityRecord r).setAxis .velocityCommand u).axis? .velocity
      = (withVelocityRecord r).axis? .velocity := Records.axis?_setAxis_of_ne (by decide) _ u
  rw [htold, htold]
  cases hv : (withVelocityRecord r).axis? .velocity with
  | none =>
    -- An empty velocity record stops the force, whether the joint was told a velocity or not.
    simp only [Actuation.driven, hkept, hobserved, hv]
  | some observed =>
    simp only [Actuation.driven, hkept, hobserved, hv]
    rw [withVelocityRecord_setAxis (q := .forceCommand) (by decide)]
    rfl

/-- Actuations of different modes may drive a joint in either order. -/
theorem driven_comm {a a' : Actuation} (h : a.mode ≠ a'.mode) (r : Records) (u u' dt : Float) :
  (a'.driven (a.driven r u dt).records u' dt).records
    = (a.driven (a'.driven r u' dt).records u dt).records
  := by
  cases a with
  | velocity =>
    cases a' with
    | velocity => exact absurd rfl h
    | force g => apply driven_force_velocity
  | force g =>
    cases a' with
    | velocity =>
      symm
      apply driven_force_velocity
    | force g' => exact absurd rfl h

/-- What a tick of a controller makes of the records of an entity. -/
def effect (c : Controller) (tick : Tick Float) (b : Inboxes) (s : Store) (e : Entity)
    (r : Records) : Records :=
  match driver? s e c with
  | some a => if tick.paused then r else (a.actuation.driven r (b.read a.inbox) tick.dt).records
  | none => r

/-- A tick of a controller changes every entity by itself. -/
theorem records?_step (c : Controller) (tick : Tick Float) (b : Inboxes) (s : Store)
    (e : Entity) :
  (c.step tick b s).store.records? e = (s.records? e).map (c.effect tick b s e)
  := by
  cases hr : s.records? e with
  | none =>
    apply Store.records?_eq_none_iff.2
    rw [(sameOutline_step c tick b s).has]
    apply Store.records?_eq_none_iff.1 hr
  | some r =>
    rw [Option.map_some, effect]
    cases hdriver : driver? s e c with
    | none => rw [(step_of_not_driver hdriver tick b).2, hr]
    | some a =>
      cases hpaused : tick.paused with
      | true =>
        rw [store_step_of_paused hpaused, hr]
        rfl
      | false =>
        rw [(step_of_driver hr hdriver hpaused b).2]
        rfl

theorem effect_congr {s t : Store} (h : s.SameOutline t) (c : Controller) (tick : Tick Float)
    (b : Inboxes) (e : Entity) :
  c.effect tick b t e = c.effect tick b s e
  := by
  funext r
  rw [effect, effect, driver?, driver?]
  simp only [Active.found?_congr h]

/-- Controllers that are no rivals have their effects in either order. -/
theorem effect_comm {s : Store} {c c' : Controller} (h : ¬ Rivals s c c') (tick : Tick Float)
    (b : Inboxes) (e : Entity) (r : Records) :
  c'.effect tick b s e (c.effect tick b s e r) = c.effect tick b s e (c'.effect tick b s e r)
  := by
  simp only [effect]
  cases hc : driver? s e c with
  | none => rfl
  | some a =>
    cases hc' : driver? s e c' with
    | none => rfl
    | some a' =>
      cases tick.paused with
      | true => rfl
      | false => apply driven_comm (mode_ne_of_drivers hc hc' h)

/-- Controllers that are no rivals leave the same store in either order. -/
theorem store_step_comm {s : Store} {c c' : Controller} (h : ¬ Rivals s c c')
    (tick : Tick Float) (b : Inboxes) :
  (c'.step tick b (c.step tick b s).store).store = (c.step tick b (c'.step tick b s).store).store
  := by
  have hc := sameOutline_step c tick b s
  have hc' := sameOutline_step c' tick b s
  have hleft := hc.trans (sameOutline_step c' tick b (c.step tick b s).store)
  have hright := hc'.trans (sameOutline_step c tick b (c'.step tick b s).store)
  apply Store.ext_records?
  · rw [hleft.allocator, hright.allocator]
  · rw [hleft.entities, hright.entities]
  · intro e
    rw [records?_step, records?_step, records?_step, records?_step, effect_congr hc,
      effect_congr hc', Option.map_map, Option.map_map]
    congr 1
    funext r
    apply effect_comm h

/-- The outcome of two controllers does not depend on which of them works first: the store, both
controllers and what each of them did are the same. -/
structure Interchangeable (tick : Tick Float) (b : Inboxes) (s : Store) (c c' : Controller) :
    Prop where
  store : (c'.step tick b (c.step tick b s).store).store
    = (c.step tick b (c'.step tick b s).store).store
  first : (c.step tick b (c'.step tick b s).store).controller = (c.step tick b s).controller
    ∧ (c.step tick b (c'.step tick b s).store).outcome = (c.step tick b s).outcome
  second : (c'.step tick b (c.step tick b s).store).controller = (c'.step tick b s).controller
    ∧ (c'.step tick b (c.step tick b s).store).outcome = (c'.step tick b s).outcome

/-- Controllers that are no rivals may work in either order. -/
theorem interchangeable {s : Store} {c c' : Controller} (h : ¬ Rivals s c c')
    (tick : Tick Float) (b : Inboxes) :
  Interchangeable tick b s c c'
  := by
  constructor
  case store => apply store_step_comm h
  case first => apply step_of_sameReadings (sameReadings_step c' tick b s)
  case second => apply step_of_sameReadings (sameReadings_step c tick b s)

/-! ### A pass -/

/-- A pass keeps what controllers read. -/
theorem sameReadings_pass (tick : Tick Float) (b : Inboxes) (cs : List Controller) (s : Store) :
  s.SameReadings (pass tick b cs s).2
  := by
  induction cs generalizing s with
  | nil => apply Store.SameReadings.refl
  | cons c rest ih => apply (sameReadings_step c tick b s).trans (ih _)

/-- In a pass every controller does what it would do alone. -/
theorem controllers_pass (tick : Tick Float) (b : Inboxes) (cs : List Controller) (s : Store) :
  (pass tick b cs s).1 = cs.map fun c => (c.step tick b s).controller
  := by
  induction cs generalizing s with
  | nil => rfl
  | cons c rest ih =>
    have hsame : ∀ c' ∈ rest, (c'.step tick b (c.step tick b s).store).controller
        = (c'.step tick b s).controller := by
      intro c' _
      apply (step_of_sameReadings (sameReadings_step c tick b s) c' tick b).1
    rw [pass, ih, List.map_cons, List.map_congr_left hsame]

/-- Without rivals the store after a pass does not depend on the order of the controllers. -/
theorem store_pass_perm {cs cs' : List Controller} (h : cs.Perm cs') (tick : Tick Float)
    (b : Inboxes) {s : Store} (hcs : cs.Pairwise fun c c' => ¬ Rivals s c c') :
  (pass tick b cs' s).2 = (pass tick b cs s).2
  := by
  induction h generalizing s with
  | nil => rfl
  | cons c _ ih =>
    apply ih
    apply (List.pairwise_cons.1 hcs).2.imp
    intro c₁ c₂ hapart
    rw [rivals_congr (sameOutline_step c tick b s)]
    apply hapart
  | swap c c' rest =>
    have hapart := (List.pairwise_cons.1 hcs).1 c List.mem_cons_self
    simp only [pass, store_step_comm hapart tick b]
  | trans h₁ _ ih₁ ih₂ =>
    have hmiddle := (h₁.pairwise_iff fun hapart hrivals => hapart hrivals.symm).1 hcs
    rw [ih₂ hmiddle, ih₁ hcs]

/-- The first phase of a tick of controllers is a pass. -/
theorem inPhase_controllers (tick : Tick Float) (b : Inboxes) (cs : List Controller)
    (s : Store) :
  (System.hooks.inPhase .prepare tick b s (cs.map .controller)).1
      = (pass tick b cs s).1.map .controller
    ∧ (System.hooks.inPhase .prepare tick b s (cs.map .controller)).2.1 = (pass tick b cs s).2
  := by
  have h := Simulation.inPhase_append tick b [] cs s
  rw [List.append_nil] at h
  obtain ⟨hsystems, hstore⟩ := h
  exact ⟨hsystems.trans (List.append_nil _), hstore⟩

/-- A controller that works on the store `t` does what it would do on the store `s`.  A force that
it applies comes from the velocity that its joint has in `s`, which is zero without a record. -/
structure WorksAsOn (tick : Tick Float) (b : Inboxes) (s t : Store) (c : Controller) : Prop where
  controller : (c.step tick b t).controller = (c.step tick b s).controller
  outcome : (c.step tick b t).outcome = (c.step tick b s).outcome
  force : ∀ {f}, (c.step tick b t).outcome = .force f →
    ∃ joint g target observed, (c.step tick b t).controller.joint? = some joint
      ∧ c.regulator? = some g ∧ c.inbox?.map b.read = some target
      ∧ ((s.get? joint (.axes .velocity)).getD [0]).head? = some observed
      ∧ f = (g.update (observed - target) tick.dt).state.output

/-- A controller works as on a store that reads the same. -/
theorem worksAsOn_of_sameReadings {s t : Store} (h : s.SameReadings t) (c : Controller)
    (tick : Tick Float) (b : Inboxes) :
  WorksAsOn tick b s t c
  := by
  obtain ⟨hcontroller, houtcome⟩ := step_of_sameReadings h c tick b
  use hcontroller, houtcome
  intro f hf
  rw [houtcome] at hf
  obtain ⟨-, joint, g, target, observed, hjoint, hg, htarget, hobserved, -, hforce, -⟩ :=
    step_of_force hf
  rw [hcontroller]
  exact ⟨joint, g, target, observed, hjoint, hg, htarget, hobserved, hforce⟩

/-- Controllers may work in any order.  Two of them are interchangeable unless they drive the same
joint in the same mode.  In a pass every controller ends as it would if it worked alone, and it
reads the velocities from before the pass, wherever it stands.  If no two controllers drive the
same joint in the same mode, then the store after the pass does not depend on their order. -/
theorem order_immaterial (tick : Tick Float) (b : Inboxes) (s : Store) :
  (∀ c c' : Controller, ¬ Rivals s c c' → Interchangeable tick b s c c')
    ∧ ∀ cs : List Controller,
      let passed := System.hooks.inPhase .prepare tick b s (cs.map .controller)
      passed.1 = cs.map (fun c => .controller (c.step tick b s).controller)
        ∧ (∀ before c after, cs = before ++ c :: after →
          WorksAsOn tick b s
            (System.hooks.inPhase .prepare tick b s (before.map .controller)).2.1 c)
        ∧ ((cs.Pairwise fun c c' => ¬ Rivals s c c') → ∀ cs', cs.Perm cs' →
          (System.hooks.inPhase .prepare tick b s (cs'.map .controller)).2.1 = passed.2.1)
  := by
  constructor
  · intro c c' h
    apply interchangeable h
  · intro cs passed
    obtain ⟨hsystems, hstore⟩ := inPhase_controllers tick b cs s
    refine ⟨?_, ?_, ?_⟩
    · rw [hsystems, controllers_pass, List.map_map]
      rfl
    · rintro before c after -
      rw [(inPhase_controllers tick b before s).2]
      apply worksAsOn_of_sameReadings (sameReadings_pass tick b before s)
    · intro hcs cs' hperm
      rw [hstore, (inPhase_controllers tick b cs' s).2]
      apply store_pass_perm hperm tick b hcs

/-- A store with the joint `wheel`, which has no velocity record. -/
def wheelStore : Store :=
  (Store.empty.edit (.spawnModel "cart")).edit (.addJoint ⟨0, Entity.capacity_pos⟩ "wheel")

/-- A controller of `wheel`, which has not found it. -/
def ofWheel (inbox : Inbox) (actuation : Actuation) : Controller := .enabled {
  model := ⟨0, Entity.capacity_pos⟩
  resolver := { name := "wheel" }
  inbox, actuation
  topic := "/cmd"
  subscribed := true }

/-- The wheel is told the velocity 2 and pushed towards the velocity 3, in either order. -/
theorem order_immaterial_wheel :
  let tick := Tick.first 1
  let b : Inboxes := ⟨#[2, 3]⟩
  let teller := ofWheel ⟨0⟩ .velocity
  let pusher := ofWheel ⟨1⟩ (.force {})
  ¬ Rivals wheelStore teller pusher
    ∧ Interchangeable tick b wheelStore teller pusher
    ∧ (System.hooks.inPhase .prepare tick b wheelStore [.controller pusher, .controller teller]).2.1
      = (System.hooks.inPhase .prepare tick b wheelStore
          [.controller teller, .controller pusher]).2.1
    ∧ (pusher.step tick b (teller.step tick b wheelStore).store).outcome = .force (-3)
    ∧ WorksAsOn tick b wheelStore (teller.step tick b wheelStore).store pusher
  := by
  intro tick b teller pusher
  have hapart : ¬ Rivals wheelStore teller pusher := by
    intro h
    cases h.mode
  obtain ⟨htwo, hall⟩ := order_immaterial tick b wheelStore
  obtain ⟨-, hreads, hstore⟩ := hall [teller, pusher]
  have hpairwise : [teller, pusher].Pairwise fun c c' => ¬ Rivals wheelStore c c' :=
    List.pairwise_pair.2 hapart
  use hapart, htwo teller pusher hapart, hstore hpairwise _ (.swap pusher teller [])
  constructor
  · decide +kernel
  · apply hreads [teller] pusher [] rfl

end Controller

end Servo
