import Servo.Proofs.Controller.Tick
import Servo.Proofs.Store.Outline

/-!
# A pass of controllers

In the first phase of a tick the controllers work one after the other (`pass`).  Each of them
keeps the outline of the store, and so it is known before the pass which controllers drive a
joint (`drivers`).  What the pass makes of these and of the records of the joint is what
`driveAll` says, whatever other controllers there are (`pass_joint`).
-/

namespace Servo.Controller

/-! ### The outline of the store -/

/-- Writing a command keeps the outline of the store. -/
theorem CommandWritten.sameOutline {s t : Store} {joint : Entity} {q : Quantity} {v : Float}
    (h : CommandWritten s t joint q v) :
  s.SameOutline t
  := by
  constructor
  case allocator => apply h.allocator
  case entities => apply h.entities
  case record =>
    intro e a ha
    by_cases he : e = joint
    · subst he
      apply h.record a (ha .velocity) (ha q)
    · rw [Store.get?, Store.get?, h.other e he]

/-- Driving a joint keeps the outline of the store. -/
theorem sameOutline_drive (a : Actuation) (s : Store) (joint : Entity) (target dt : Float) :
  s.SameOutline (a.drive s joint target dt).store
  := by
  rcases drive_cases a s joint target dt with ⟨-, -, h, -⟩ | ⟨-, -, h, -⟩ |
    ⟨g, -, -, -, h, -⟩ | ⟨g, observed, -, -, -, h, -⟩
  · rw [h]
    apply Store.SameOutline.refl
  · apply h.sameOutline
  · rw [h]
    apply Store.SameOutline.refl
  · apply h.sameOutline

/-- A tick keeps the outline of the store. -/
theorem sameOutline_step (c : Controller) (tick : Tick Float) (b : Inboxes) (s : Store) :
  s.SameOutline (c.step tick b s).store
  := by
  rcases step_cases c tick b s with ⟨-, -, h, -⟩ | ⟨a, -, -, -, h, -⟩ |
    ⟨a, joint, -, -, -, -, h, -⟩ | ⟨a, joint, -, -, -, -, h, -⟩
  · rw [h]
    apply Store.SameOutline.refl
  · rw [h]
    apply Store.SameOutline.refl
  · rw [h]
    apply Store.SameOutline.refl
  · rw [h]
    apply sameOutline_drive

theorem Active.found?_congr {s t : Store} (h : s.SameOutline t) (a : Active) :
  a.found? t = a.found? s
  := by
  rw [found?, found?]
  congr 2
  funext name
  apply h.jointNamed? a.model name

/-! ### The drivers of a joint -/

/-- The controller as one that drives a joint, which it has after a lookup in a store. -/
def driver? (s : Store) (e : Entity) (c : Controller) : Option Active :=
  c.active?.filter fun a => a.found? s = some e

/-- The controllers of a list that drive a joint. -/
def drivers (s : Store) (e : Entity) (cs : List Controller) : List Active :=
  cs.filterMap (driver? s e)

/-- A controller that drives a joint is configured and finds the joint. -/
theorem driver?_eq_some_iff {s : Store} {e : Entity} {c : Controller} {a : Active} :
  driver? s e c = some a ↔ c = .enabled a ∧ a.found? s = some e
  := by
  cases c with
  | disabled => simp [driver?, active?]
  | enabled a' =>
    simp only [driver?, active?, Option.filter_some, Option.ite_none_right_eq_some,
      Option.some.injEq, decide_eq_true_eq, enabled.injEq]
    constructor
    · rintro ⟨h, rfl⟩
      use rfl, h
    · rintro ⟨rfl, h⟩
      exact ⟨h, rfl⟩

theorem drivers_congr {s t : Store} (h : s.SameOutline t) (e : Entity) (cs : List Controller) :
  drivers t e cs = drivers s e cs
  := by
  have hdriver : driver? t e = driver? s e := by
    funext c
    simp only [driver?, Active.found?_congr h]
  rw [drivers, drivers, hdriver]

/-- A tick of a driver drives its joint. -/
theorem step_of_driver {s : Store} {e : Entity} {r : Records} (hr : s.records? e = some r)
    {c : Controller} {a : Active} (h : driver? s e c = some a) {tick : Tick Float}
    (hrunning : tick.paused = false) (b : Inboxes) :
  let d := a.actuation.driven r (b.read a.inbox) tick.dt
  driver? s e (c.step tick b s).controller = some (a.afterDrive e d.actuation)
    ∧ (c.step tick b s).store.records? e = some d.records
  := by
  obtain ⟨rfl, hfound⟩ := driver?_eq_some_iff.1 h
  obtain ⟨hcontroller, hstore, -⟩ := Active.step_of_running hfound hrunning b
  obtain ⟨hactuation, hdriven, -⟩ :=
    drive_of_records? hr a.actuation (b.read a.inbox) tick.dt
  constructor
  · apply driver?_eq_some_iff.2
    rw [step, hcontroller, hactuation]
    use rfl
    apply Active.found?_of_resolved
    rfl
  · rw [step, hstore, hdriven, Store.records?_adjust_self, hr, Option.map_some]

/-- A tick of a controller that does not drive a joint leaves the joint alone. -/
theorem step_of_not_driver {s : Store} {e : Entity} {c : Controller}
    (h : driver? s e c = none) (tick : Tick Float) (b : Inboxes) :
  driver? s e (c.step tick b s).controller = none
    ∧ (c.step tick b s).store.records? e = s.records? e
  := by
  have hnot : ∀ {a}, c = .enabled a → a.found? s ≠ some e := by
    rintro a rfl hfound
    rw [driver?_eq_some_iff.2 ⟨rfl, hfound⟩] at h
    cases h
  have hresolved : ∀ {a a' : Active} {joint}, c = .enabled a → a.found? s = some joint →
      a'.resolver.handle = some joint → driver? s e (.enabled a') = none := by
    intro a a' joint hc hfound hhandle
    cases hdriver : driver? s e (.enabled a') with
    | none => rfl
    | some a'' =>
      obtain ⟨hc', hfound'⟩ := driver?_eq_some_iff.1 hdriver
      cases hc'
      rw [Active.found?_of_resolved hhandle] at hfound'
      cases hfound'
      exact absurd hfound (hnot hc)
  rcases step_cases c tick b s with ⟨-, hc, hs, -⟩ | ⟨a, -, -, hc, hs, -⟩ |
    ⟨a, joint, ha, hfound, -, hc, hs, -⟩ | ⟨a, joint, ha, hfound, -, hc, hs, -⟩
  · rw [hc, hs]
    exact ⟨h, rfl⟩
  · rw [hc, hs]
    exact ⟨h, rfl⟩
  · rw [hc, hs]
    exact ⟨hresolved ha hfound rfl, rfl⟩
  · rw [hc, hs]
    use hresolved ha hfound rfl
    have hne : e ≠ joint := by
      rintro rfl
      apply hnot ha hfound
    rcases drive_cases a.actuation s joint (b.read a.inbox) tick.dt with
      ⟨-, -, hd, -⟩ | ⟨-, -, hw, -⟩ | ⟨g, -, -, -, hd, -⟩ | ⟨g, observed, -, -, -, hw, -⟩
    · rw [hd]
    · apply hw.other e hne
    · rw [hd]
    · apply hw.other e hne

/-! ### A pass -/

/-- The controllers and the store after each controller worked once. -/
def pass (tick : Tick Float) (b : Inboxes) : List Controller → Store → List Controller × Store
  | [], s => ([], s)
  | c :: rest, s =>
    let r := c.step tick b s
    let later := pass tick b rest r.store
    (r.controller :: later.1, later.2)

/-- The drivers of a joint and its records after each of them drove it once. -/
def driveAll (joint : Entity) (b : Inboxes) (dt : Float) :
    List Active → Records → List Active × Records
  | [], r => ([], r)
  | a :: rest, r =>
    let d := a.actuation.driven r (b.read a.inbox) dt
    let later := driveAll joint b dt rest d.records
    (a.afterDrive joint d.actuation :: later.1, later.2)

theorem sameOutline_pass (tick : Tick Float) (b : Inboxes) (cs : List Controller) (s : Store) :
  s.SameOutline (pass tick b cs s).2
  := by
  induction cs generalizing s with
  | nil => apply Store.SameOutline.refl
  | cons c rest ih => apply (sameOutline_step c tick b s).trans (ih _)

/-- What a pass makes of a joint and of those who drive it depends on nothing else. -/
theorem pass_joint {tick : Tick Float} (hrunning : tick.paused = false) (b : Inboxes)
    (cs : List Controller) {s : Store} {e : Entity} {r : Records}
    (hr : s.records? e = some r) :
  drivers s e (pass tick b cs s).1 = (driveAll e b tick.dt (drivers s e cs) r).1
    ∧ (pass tick b cs s).2.records? e = some (driveAll e b tick.dt (drivers s e cs) r).2
  := by
  induction cs generalizing s r with
  | nil => use rfl, hr
  | cons c rest ih =>
    have houtline := sameOutline_step c tick b s
    have hlater := drivers_congr houtline e
    cases h : driver? s e c with
    | none =>
      obtain ⟨hdriver, hrecords⟩ := step_of_not_driver h tick b
      obtain ⟨hdrivers, hpass⟩ := ih (hrecords.trans hr)
      rw [hlater, hlater] at hdrivers
      rw [hlater] at hpass
      have hhead : drivers s e (c :: rest) = drivers s e rest := List.filterMap_cons_none h
      rw [hhead]
      refine ⟨?_, hpass⟩
      apply (List.filterMap_cons_none hdriver).trans hdrivers
    | some a =>
      obtain ⟨hdriver, hrecords⟩ := step_of_driver hr h hrunning b
      obtain ⟨hdrivers, hpass⟩ := ih hrecords
      rw [hlater, hlater] at hdrivers
      rw [hlater] at hpass
      have hhead : drivers s e (c :: rest) = a :: drivers s e rest := List.filterMap_cons_some h
      rw [hhead]
      refine ⟨?_, hpass⟩
      apply Eq.trans (List.filterMap_cons_some hdriver)
      apply congrArg (_ :: ·) hdrivers

/-! ### Paused passes -/

/-- In a paused tick a driver of a joint does no more than find it. -/
theorem driver?_step_of_paused {tick : Tick Float} (hpaused : tick.paused = true) (b : Inboxes)
    (s : Store) (e : Entity) (c : Controller) :
  driver? s e (c.step tick b s).controller = (driver? s e c).map (·.withJoint (some e))
  := by
  cases c with
  | disabled => rfl
  | enabled a =>
    rw [Controller.step]
    cases hfound : a.found? s with
    | none =>
      rw [(Active.step_of_missing hfound tick b).1]
      simp only [driver?, active?, Option.filter_some, hfound, reduceCtorEq, decide_false,
        Bool.false_eq_true, if_false, Option.map_none]
    | some joint =>
      have hjoint : (a.withJoint (some joint)).found? s = some joint :=
        Active.found?_of_resolved rfl s
      rw [(Active.step_of_paused hfound hpaused b).1]
      simp only [driver?, active?, Option.filter_some, hfound, hjoint, Option.some.injEq]
      by_cases he : joint = e
      · subst he
        simp only [decide_true, if_true, Option.map_some]
      · simp only [he, decide_false, Bool.false_eq_true, if_false, Option.map_none]

/-- In a paused pass the drivers of a joint do no more than find it, and the store stays as it
is. -/
theorem pass_of_paused {tick : Tick Float} (hpaused : tick.paused = true) (b : Inboxes)
    (s : Store) (e : Entity) (cs : List Controller) :
  drivers s e (pass tick b cs s).1 = (drivers s e cs).map (·.withJoint (some e))
    ∧ (pass tick b cs s).2 = s
  := by
  induction cs with
  | nil => exact ⟨rfl, rfl⟩
  | cons c rest ih =>
    obtain ⟨hdrivers, hstore⟩ := ih
    have hdriver := driver?_step_of_paused hpaused b s e c
    simp only [pass, store_step_of_paused hpaused, hstore, and_true]
    rw [drivers, drivers]
    cases h : driver? s e c with
    | none =>
      rw [h] at hdriver
      rw [List.filterMap_cons_none h, List.filterMap_cons_none hdriver]
      apply hdrivers
    | some a =>
      rw [h] at hdriver
      rw [List.filterMap_cons_some h, List.filterMap_cons_some hdriver, List.map_cons]
      apply congrArg (_ :: ·) hdrivers

end Servo.Controller
