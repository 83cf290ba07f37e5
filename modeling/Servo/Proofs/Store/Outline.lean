import Servo.Proofs.Store.View

/-!
# The outline of a store

The outline of a store are its entities with all records but the quantities.  Two stores
with the same outline (`Store.SameOutline`) have the same joints, and a joint is looked up in
both with the same result.
-/

namespace Servo

/-- An attribute that is no quantity. -/
def Attribute.IsOutline (a : Attribute) : Prop := ∀ q, a ≠ .axes q

namespace Store

/-- Two stores that differ in quantities only. -/
structure SameOutline (s t : Store) : Prop where
  allocator : t.allocator = s.allocator
  entities : t.entities = s.entities
  record : ∀ e {a : Attribute}, a.IsOutline → t.get? e a = s.get? e a

namespace SameOutline

theorem refl (s : Store) :
  s.SameOutline s
  := ⟨rfl, rfl, fun _ _ _ => rfl⟩

/-- Outlines are compared one after the other. -/
theorem trans {s t u : Store} (hst : s.SameOutline t) (htu : t.SameOutline u) :
  s.SameOutline u
  := by
  constructor
  case allocator => rw [htu.allocator, hst.allocator]
  case entities => rw [htu.entities, hst.entities]
  case record =>
    intro e a ha
    rw [htu.record e ha, hst.record e ha]

/-- Changing quantities of one entity keeps the outline. -/
theorem adjust {f : Records → Records}
    (hf : ∀ r {a : Attribute}, a.IsOutline → (f r).get? a = r.get? a) (s : Store) (e : Entity) :
  s.SameOutline (s.adjust e f)
  := by
  constructor
  case allocator => rfl
  case entities => apply entities_adjust
  case record =>
    intro e' a ha
    rw [get?, get?, records?_adjust]
    split
    next he =>
      rw [he]
      cases s.records? e with
      | none => rfl
      | some r => apply hf r ha
    next => rfl

variable {s t : Store}

theorem has (h : s.SameOutline t) (e : Entity) :
  t.has e = s.has e
  := by
  rw [Bool.eq_iff_iff, ← mem_entities_iff, ← mem_entities_iff, h.entities]

/-- An entity has records in both stores or in neither. -/
theorem records? (h : s.SameOutline t) {e : Entity} {r : Records} (hr : s.records? e = some r) :
  ∃ r', t.records? e = some r' ∧ ∀ {a : Attribute}, a.IsOutline → r'.get? a = r.get? a
  := by
  have hhas : t.has e = true := by rw [h.has, Store.has, hr, Option.isSome_some]
  obtain ⟨r', hr'⟩ := Option.isSome_iff_exists.1 hhas
  use r', hr'
  intro a ha
  rw [← get?_eq_of_records? hr, ← get?_eq_of_records? hr', h.record e ha]

/-- An entity is a joint of a model in both stores or in neither. -/
theorem hasJoint_iff (h : s.SameOutline t) {model : Entity} {name : String} {e : Entity} :
  t.HasJoint model name e ↔ s.HasJoint model name e
  := by
  have hjoint := h.record e (a := .joint) nofun
  have hparent := h.record e (a := .parent) nofun
  have hname := h.record e (a := .name) nofun
  constructor
  · rintro ⟨h₁, h₂, h₃⟩
    use hjoint ▸ h₁, hparent ▸ h₂, hname ▸ h₃
  · rintro ⟨h₁, h₂, h₃⟩
    use hjoint ▸ h₁, hparent ▸ h₂, hname ▸ h₃

theorem jointNamed? (h : s.SameOutline t) (model : Entity) (name : String) :
  t.jointNamed? model name = s.jointNamed? model name
  := jointNamed?_congr fun _ => h.hasJoint_iff

theorem withAttribute (h : s.SameOutline t) {a : Attribute} (ha : a.IsOutline) :
  t.withAttribute a = s.withAttribute a
  := by
  rw [withAttribute_eq, withAttribute_eq, h.entities]
  apply List.filter_congr
  intro e _
  rw [hasRecord, hasRecord, h.record e ha]

end SameOutline

end Store

end Servo
