import Servo.Controller
import Servo.Proofs.Store.View

/-!
# Driving one joint

`Actuation.driven` is what driving a joint does to the records of that joint and to the
regulator, without a store.  `Actuation.drive` does that to the store and nothing else
(`drive_of_records?`), and a joint that is not in the store is not driven
(`drive_of_not_has`).
-/

namespace Servo.Controller

/-! ### The records of a driven joint -/

/-- What becomes of an actuation and the records of its joint. -/
structure Driven where
  actuation : Actuation
  records : Records
  outcome : Outcome

/-- The records with a velocity record, which is zero if it is new. -/
def withVelocityRecord (r : Records) : Records :=
  if (r.get? (.axes .velocity)).isSome then r else r.set (.axes .velocity) (some [0])

/-- Drives a joint with given records towards a set-point. -/
def Actuation.driven (a : Actuation) (r : Records) (target dt : Float) : Driven :=
  match a with
  | .velocity =>
    ⟨.velocity, (withVelocityRecord r).setAxis .velocityCommand target, .velocity target⟩
  | .force g =>
    match (withVelocityRecord r).axis? .velocity with
    | none => ⟨.force g, r, .storeFault⟩
    | some observed =>
      let g := g.update (observed - target) dt
      ⟨.force g, (withVelocityRecord r).setAxis .forceCommand g.state.output,
        .force g.state.output⟩

/-- With a velocity record a joint has the one from before, or one that is zero. -/
@[simp]
theorem get?_withVelocityRecord (r : Records) :
  (withVelocityRecord r).get? (.axes .velocity)
    = some ((r.get? (.axes .velocity)).getD [0])
  := by
  rw [withVelocityRecord]
  cases h : r.get? (.axes .velocity) with
  | none => rw [if_neg (by simp), Records.get?_set_self, Option.getD_none]
  | some axes => rw [if_pos (by simp), h, Option.getD_some]

theorem get?_withVelocityRecord_of_ne {a : Attribute} (h : a ≠ .axes .velocity) (r : Records) :
  (withVelocityRecord r).get? a = r.get? a
  := by
  rw [withVelocityRecord]
  split
  · rfl
  · apply Records.get?_set_of_ne h

/-- A joint with a velocity record that is empty keeps its records. -/
theorem withVelocityRecord_eq_self {r : Records} {axes : List Float}
    (h : r.get? (.axes .velocity) = some axes) :
  withVelocityRecord r = r
  := by
  rw [withVelocityRecord, h]
  rfl

/-! ### The store of a driven joint -/

/-- A joint that is in the store gets a velocity record. -/
theorem withVelocity_of_records? {s : Store} {joint : Entity} {r : Records}
    (h : s.records? joint = some r) :
  withVelocity s joint = .ok (s.adjust joint withVelocityRecord)
  := by
  have hhas : s.has joint = true := by rw [Store.has, h, Option.isSome_some]
  have hget := Store.get?_eq_of_records? h (.axes .velocity)
  rw [withVelocity, Store.hasRecord, hget]
  cases hr : r.get? (.axes .velocity) with
  | none =>
    rw [if_neg (by simp), Store.put, if_pos hhas]
    congr 1
    apply Store.ext_records? (by simp) (by simp)
    intro e
    rw [Store.records?_adjust, Store.records?_adjust]
    split
    next he =>
      rw [he, h, Option.map_some, Option.map_some, withVelocityRecord, hr]
      rfl
    next => rfl
  | some axes =>
    rw [if_pos (by simp), Store.adjust_eq_self h (withVelocityRecord_eq_self hr)]

theorem writeCommand_of_has {s : Store} {joint : Entity} (h : s.has joint = true)
    (a : Actuation) (q : Quantity) (v : Float) (outcome : Outcome) :
  writeCommand a s joint q v outcome = ⟨a, s.adjust joint (·.setAxis q v), outcome, []⟩
  := by
  rw [writeCommand, Store.setAxis, if_pos h]

/-- A joint that is in the store is driven as its records are. -/
theorem drive_of_records? {s : Store} {joint : Entity} {r : Records}
    (h : s.records? joint = some r) (a : Actuation) (target dt : Float) :
  (a.drive s joint target dt).controller = (a.driven r target dt).actuation
    ∧ (a.drive s joint target dt).store
      = s.adjust joint (fun _ => (a.driven r target dt).records)
    ∧ (a.drive s joint target dt).outcome = (a.driven r target dt).outcome
  := by
  have hrecords : (s.adjust joint withVelocityRecord).records? joint
      = some (withVelocityRecord r) := by
    rw [Store.records?_adjust_self, h, Option.map_some]
  have hhas : (s.adjust joint withVelocityRecord).has joint = true := by
    rw [Store.has, hrecords, Option.isSome_some]
  have hwrite : ∀ (q : Quantity) (v : Float),
      (s.adjust joint withVelocityRecord).adjust joint (·.setAxis q v)
        = s.adjust joint (fun _ => (withVelocityRecord r).setAxis q v) := by
    intro q v
    rw [Store.adjust_adjust]
    apply Store.adjust_congr h
    rfl
  rw [Actuation.drive, withVelocity_of_records? h]
  cases a with
  | velocity =>
    simp only [writeCommand_of_has hhas, Actuation.driven, hwrite, and_self]
  | force g =>
    simp only [Store.axis?_eq_of_records? hrecords, Actuation.driven]
    cases hv : (withVelocityRecord r).axis? .velocity with
    | none =>
      refine ⟨rfl, ?_, rfl⟩
      apply Store.adjust_congr h
      rw [Records.axis?, get?_withVelocityRecord] at hv
      cases hr : r.get? (.axes .velocity) with
      | none => simp [hr, Axes.first?] at hv
      | some axes => apply withVelocityRecord_eq_self hr
    | some observed =>
      simp only [writeCommand_of_has hhas, hwrite, and_self]

/-- A joint that is not in the store is not driven. -/
theorem drive_of_not_has {s : Store} {joint : Entity} (h : s.has joint = false)
    (a : Actuation) (target dt : Float) :
  (a.drive s joint target dt).controller = a
    ∧ (a.drive s joint target dt).store = s
    ∧ (a.drive s joint target dt).outcome = .storeFault
  := by
  have hnone : s.get? joint (.axes .velocity) = none := by
    rw [Store.get?, Store.records?_eq_none_iff.2 h, Option.bind_none]
  have hput : withVelocity s joint = .error (.notFound joint) := by
    rw [withVelocity, Store.hasRecord, hnone, Option.isSome_none, if_neg (by simp), Store.put,
      h, if_neg (by simp)]
  rw [Actuation.drive, hput]
  exact ⟨rfl, rfl, rfl⟩

end Servo.Controller
