import Servo.Proofs.Store.Edit
import Servo.Proofs.World.Valid
import Servo.Simulation.Build

/-!
# The number of entities of a world

Building a valid world can fail only because it needs more entities than there are
(`ofWorld_of_valid`): what an assembly does `Issues` a number of them, and these numbers add
up to `World.size`.
-/

namespace Servo

/-- The number of entities that a world needs: its models and all their joints. -/
def World.size (w : World) : Nat := (w.models.map fun m => m.joints.length + 1).sum

namespace Simulation

/-- The index of the next entity of an assembly. -/
def Assembly.next (a : Assembly) : Nat := a.store.allocator.next

/-- A part of building issues `n` entities.  It fails exactly if there are not so many
left. -/
def Issues (f : Assembly → Except Store.Error Assembly) (n : Nat) : Prop :=
  ∀ a : Assembly, a.next ≤ Entity.capacity →
    (a.next + n ≤ Entity.capacity → ∃ b, f a = .ok b ∧ b.next = a.next + n)
      ∧ (Entity.capacity < a.next + n → f a = .error .exhausted)

/-- Doing nothing issues nothing. -/
theorem issues_pure :
  Issues pure 0
  := by
  intro a hnext
  constructor
  · intro _
    exact ⟨a, rfl, rfl⟩
  · intro hfull
    exact absurd hnext (Nat.not_le_of_gt hfull)

/-- One part after another issues what both issue. -/
theorem Issues.bind {f g : Assembly → Except Store.Error Assembly} {m n : Nat}
    (hf : Issues f m) (hg : Issues g n) :
  Issues (fun a => f a >>= g) (m + n)
  := by
  intro a hnext
  obtain ⟨hroom, hfull⟩ := hf a hnext
  by_cases hm : a.next + m ≤ Entity.capacity
  · obtain ⟨b, hb, hbnext⟩ := hroom hm
    have hlater := hg b (by rw [hbnext]; exact hm)
    rw [hbnext, Nat.add_assoc] at hlater
    simp only [hb]
    apply hlater
  · have hm : Entity.capacity < a.next + m := Nat.lt_of_not_le hm
    constructor
    · intro hroom
      omega
    · intro _
      simp only [hfull hm]
      rfl

/-- A part for each element of a list issues what all of them issue. -/
theorem Issues.foldlM {α : Type} {f : Assembly → α → Except Store.Error Assembly}
    {n : α → Nat} (hf : ∀ x, Issues (f · x) (n x)) (l : List α) :
  Issues (fun a => l.foldlM f a) (l.map n).sum
  := by
  induction l with
  | nil => apply issues_pure
  | cons x rest ih =>
    rw [List.map_cons, List.sum_cons]
    simp only [List.foldlM_cons]
    apply (hf x).bind ih

namespace Assembly

/-- A joint is one entity. -/
theorem issues_addJoint (model : Entity) (j : World.Joint) :
  Issues (addJoint model · j) 1
  := by
  intro a _
  constructor
  · intro hroom
    obtain ⟨⟨e, t⟩, hcreate⟩ := Store.create_of_room (s := a.store) hroom
    obtain ⟨e, t, hadd⟩ : ∃ e t, a.store.addJoint model j.name = .ok (e, t) := by
      rw [Store.addJoint_eq, hcreate]
      exact ⟨_, _, rfl⟩
    have hextends := Store.addJoint_eq_ok hadd
    simp only [addJoint, hadd, bind, Except.bind]
    cases j.initialVelocity with
    | none => exact ⟨_, rfl, hextends.next⟩
    | some v =>
      have hrecords := (hextends.records e).trans (if_pos rfl)
      simp only [Store.put_of_records? hrecords]
      exact ⟨_, rfl, hextends.next⟩
  · intro hfull
    have hcreate := Store.create_of_full (s := a.store) (Nat.le_of_lt_succ hfull)
    simp only [addJoint, Store.addJoint_eq, hcreate]
    rfl

theorem store_foldl_addPlugin (model : Entity) (plugins : List World.Plugin) (a : Assembly) :
  (plugins.foldl (addPlugin model) a).store = a.store
  := by
  induction plugins generalizing a with
  | nil => rfl
  | cons p rest ih => apply ih (a.addPlugin model p)

/-- A model is one entity and one for each of its joints. -/
theorem issues_addModel (m : World.Model) :
  Issues (·.addModel m) (m.joints.length + 1)
  := by
  intro a hnext
  have hjoints : ∀ model, Issues (fun a => m.joints.foldlM (addJoint model) a)
      m.joints.length := by
    intro model
    have := Issues.foldlM (issues_addJoint model) m.joints
    rw [List.map_const', List.sum_replicate_nat, Nat.mul_one] at this
    apply this
  by_cases hroom : a.next < Entity.capacity
  · obtain ⟨p, hcreate⟩ := Store.create_of_room (s := a.store) hroom
    obtain ⟨e, t, hspawn⟩ : ∃ e t, a.store.spawnModel m.name = .ok (e, t) := by
      rw [Store.spawnModel_eq, hcreate]
      exact ⟨_, _, rfl⟩
    have hspawned : Assembly.next { a with store := t } = a.next + 1 :=
      (Store.spawnModel_eq_ok hspawn).next
    obtain ⟨hok, hfull⟩ := hjoints e { a with store := t } (by rw [hspawned]; exact hroom)
    rw [hspawned, Nat.add_assoc, Nat.add_comm 1] at hok hfull
    beta_reduce at hok hfull
    simp only [addModel, hspawn, bind, Except.bind]
    constructor
    · intro h
      obtain ⟨b, hb, hbnext⟩ := hok h
      rw [hb]
      refine ⟨_, rfl, ?_⟩
      rw [next, store_foldl_addPlugin]
      apply hbnext
    · intro h
      rw [hfull h]
  · have hcreate := Store.create_of_full (s := a.store) (Nat.le_of_not_lt hroom)
    constructor
    · intro h
      omega
    · intro _
      simp only [addModel, Store.spawnModel_eq, hcreate]
      rfl

end Assembly

/-- The models of a world are created if there are enough entities for them. -/
theorem foldlM_addModel_cases (w : World) :
  (w.size ≤ Entity.capacity →
      ∃ a, w.models.foldlM Assembly.addModel {} = .ok a ∧ a.next = w.size)
    ∧ (Entity.capacity < w.size → w.models.foldlM Assembly.addModel {} = .error .exhausted)
  := by
  have hsize : Assembly.next {} + (w.models.map fun m => m.joints.length + 1).sum = w.size :=
    Nat.zero_add _
  rw [← hsize]
  apply Issues.foldlM Assembly.issues_addModel w.models {} (Nat.zero_le Entity.capacity)

/-- A valid world is built if there are enough entities for it, and fails otherwise. -/
theorem ofWorld_cases {w : World} (hw : w.Valid) :
  (w.size ≤ Entity.capacity → ∃ b, ofWorld w = .ok b)
    ∧ (Entity.capacity < w.size → ofWorld w = .error (.store .exhausted))
  := by
  obtain ⟨hok, hfull⟩ := foldlM_addModel_cases w
  rw [ofWorld, World.fault?_eq_none_iff.2 hw]
  constructor
  · intro hroom
    obtain ⟨a, ha, -⟩ := hok hroom
    simp only [ha, hw.ofNumbers]
    exact ⟨_, rfl⟩
  · intro hroom
    simp only [hfull hroom]
    rfl

/-- A valid world is built, or it needs more entities than there are and fails for that. -/
theorem ofWorld_of_valid {w : World} (hw : w.Valid) :
  (Entity.capacity < w.size ∧ ofWorld w = .error (.store .exhausted))
    ∨ ∃ b, ofWorld w = .ok b
  := by
  obtain ⟨hok, hfull⟩ := ofWorld_cases hw
  rcases Nat.lt_or_ge Entity.capacity w.size with hroom | hroom
  · exact .inl ⟨hroom, hfull hroom⟩
  · exact .inr (hok hroom)

end Simulation

end Servo
