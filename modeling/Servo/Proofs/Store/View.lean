import Servo.Model
import Mathlib.Data.List.Nodup
import Mathlib.Tactic.Use

/-!
# The view of a store

A store is known by its entities and by what `Store.records?` reads for each of them
(`Store.ext_records?`).  For every change of a store there is a lemma that says what is
read afterwards, so that the list of entries is not needed any more.
-/

namespace Servo

/-! ### Results -/

theorem eq_ok_of_bind {ε α β : Type} {x : Except ε α} {f : α → Except ε β} {b : β}
    (h : x >>= f = .ok b) :
  ∃ a, x = .ok a ∧ f a = .ok b
  := by
  cases x with
  | error e => cases h
  | ok a => exact ⟨a, rfl, h⟩

/-- What there is of a result is the result. -/
theorem eq_ok_of_toOption {ε α : Type} {x : Except ε α} {a : α} (h : x.toOption = some a) :
  x = .ok a
  := by
  cases x with
  | error e => cases h
  | ok b =>
    cases h
    rfl

/-! ### The records of one entity -/

theorem Axes.setFirst_eq (v : Float) (axes : List Float) :
  Axes.setFirst v axes = v :: axes.tail
  := by
  cases axes <;> rfl

namespace Records

@[simp]
theorem get?_set_self (r : Records) (a : Attribute) (v : Option a.Value) :
  (r.set a v).get? a = v
  := by
  rcases a with _ | _ | _ | _ | _ | _ | _ <;> rfl

@[simp]
theorem set_get? (r : Records) (a : Attribute) :
  r.set a (r.get? a) = r
  := by
  rcases a with _ | _ | _ | _ | _ | _ | _ <;> rfl

/-- Setting a record changes no other one. -/
theorem get?_set_of_ne {a b : Attribute} (h : b ≠ a) (r : Records) (v : Option a.Value) :
  (r.set a v).get? b = r.get? b
  := by
  rcases a with _ | _ | _ | _ | _ | _ | _ <;>
    rcases b with _ | _ | _ | _ | _ | _ | _ <;>
    first
      | rfl
      | exact absurd rfl h

@[simp]
theorem get?_setAxis_self (r : Records) (q : Quantity) (v : Float) :
  (r.setAxis q v).get? (.axes q) = some (Axes.setFirst v ((r.get? (.axes q)).getD []))
  := get?_set_self r _ _

theorem get?_setAxis_of_ne {a : Attribute} {q : Quantity} (h : a ≠ .axes q) (r : Records)
    (v : Float) :
  (r.setAxis q v).get? a = r.get? a
  := get?_set_of_ne h r _

@[simp]
theorem axis?_setAxis_self (r : Records) (q : Quantity) (v : Float) :
  (r.setAxis q v).axis? q = some v
  := by
  rw [axis?, get?_setAxis_self]
  cases (r.get? (.axes q)).getD [] <;> rfl

theorem axis?_setAxis_of_ne {p q : Quantity} (h : p ≠ q) (r : Records) (v : Float) :
  (r.setAxis q v).axis? p = r.axis? p
  := by
  rw [axis?, axis?, get?_setAxis_of_ne]
  intro hpq
  cases hpq
  apply h rfl

end Records

namespace Store

/-! ### Entities and their records -/

/-- Different entries belong to different entities. -/
theorem nodup_entities (s : Store) :
  s.entities.Nodup
  := by
  apply List.pairwise_map.2
  apply s.increasing.imp
  intro p q h hpq
  rw [hpq] at h
  apply Nat.lt_irrefl _ h

/-- The records that are read are those of the entry. -/
theorem records?_eq_some_iff {s : Store} {e : Entity} {r : Records} :
  s.records? e = some r ↔ (e, r) ∈ s.entries
  := by
  constructor
  · intro h
    obtain ⟨p, hp, rfl⟩ := Option.map_eq_some_iff.1 h
    have he := List.find?_some hp
    simp only [decide_eq_true_eq] at he
    rw [← he]
    apply List.mem_of_find?_eq_some hp
  · intro h
    have hfound : ∃ p, s.entries.find? (·.1 = e) = some p := by
      apply Option.isSome_iff_exists.1
      apply List.find?_isSome.2
      use (e, r), h, by simp
    obtain ⟨p, hp⟩ := hfound
    have he := List.find?_some hp
    simp only [decide_eq_true_eq] at he
    have hp' := List.mem_of_find?_eq_some hp
    have hinj := List.inj_on_of_nodup_map (nodup_entities s) hp' h he
    rw [records?, hp, hinj]
    rfl

/-- An entity is listed exactly if it is in the store. -/
theorem mem_entities_iff {s : Store} {e : Entity} :
  e ∈ s.entities ↔ s.has e = true
  := by
  rw [has, Option.isSome_iff_exists]
  constructor
  · intro h
    obtain ⟨⟨_, r⟩, hp, rfl⟩ := List.mem_map.1 h
    exact ⟨r, records?_eq_some_iff.2 hp⟩
  · rintro ⟨r, hr⟩
    apply List.mem_map.2
    exact ⟨(e, r), records?_eq_some_iff.1 hr, rfl⟩

theorem index_lt_of_has {s : Store} {e : Entity} (h : s.has e = true) :
  e.index < s.allocator.next
  := by
  obtain ⟨r, hr⟩ := Option.isSome_iff_exists.1 h
  apply s.issued (e, r) (records?_eq_some_iff.1 hr)

theorem has_of_next_le {s : Store} {e : Entity} (h : s.allocator.next ≤ e.index) :
  s.has e = false
  := by
  cases hhas : s.has e with
  | false => rfl
  | true => exact absurd (index_lt_of_has hhas) (Nat.not_lt.2 h)

/-- The entries are the entities with what is read of them. -/
theorem entries_eq (s : Store) :
  s.entries = s.entities.filterMap fun e => (s.records? e).map (e, ·)
  := by
  rw [entities, List.filterMap_map]
  symm
  apply Eq.trans (List.filterMap_congr _) List.filterMap_some
  rintro ⟨e, r⟩ hp
  simp only [Function.comp_apply, records?_eq_some_iff.2 hp, Option.map_some]

/-- A store is determined by its allocator, its entities and their records. -/
theorem ext_records? {s t : Store} (hallocator : s.allocator = t.allocator)
    (hentities : s.entities = t.entities) (hrecords : ∀ e, s.records? e = t.records? e) :
  s = t
  := by
  have h : s.entries = t.entries := by
    rw [entries_eq s, entries_eq t, hentities]
    simp only [hrecords]
  cases s
  cases t
  cases hallocator
  cases h
  rfl

/-! ### What is read after a change -/

/-- Changing the records of one entity keeps the entities. -/
@[simp]
theorem entities_adjust (s : Store) (e : Entity) (f : Records → Records) :
  (s.adjust e f).entities = s.entities
  := by
  simp only [entities, adjust, List.map_map]
  apply List.map_congr_left
  intro p _
  simp only [Function.comp_apply]
  split <;> rfl

@[simp]
theorem allocator_adjust (s : Store) (e : Entity) (f : Records → Records) :
  (s.adjust e f).allocator = s.allocator
  := rfl

/-- Changed records are read of their entity, and of no other. -/
theorem records?_adjust (s : Store) (e e' : Entity) (f : Records → Records) :
  (s.adjust e f).records? e' = if e' = e then (s.records? e').map f else s.records? e'
  := by
  simp only [records?, adjust]
  induction s.entries with
  | nil => simp
  | cons p rest ih =>
    simp only [List.map_cons, List.find?_cons]
    by_cases hp : p.1 = e <;> by_cases he : p.1 = e' <;> grind

@[simp]
theorem records?_adjust_self (s : Store) (e : Entity) (f : Records → Records) :
  (s.adjust e f).records? e = (s.records? e).map f
  := by
  rw [records?_adjust, if_pos rfl]

theorem records?_adjust_of_ne {e e' : Entity} (h : e' ≠ e) (s : Store)
    (f : Records → Records) :
  (s.adjust e f).records? e' = s.records? e'
  := by
  rw [records?_adjust, if_neg h]

@[simp]
theorem has_adjust (s : Store) (e e' : Entity) (f : Records → Records) :
  (s.adjust e f).has e' = s.has e'
  := by
  rw [has, has, records?_adjust]
  split <;> simp

/-- Nothing happens if an entity that is not in the store is to be changed. -/
theorem adjust_of_not_has {s : Store} {e : Entity} (h : s.has e = false)
    (f : Records → Records) :
  s.adjust e f = s
  := by
  have hnone : s.records? e = none := by simpa [has] using h
  apply ext_records? (allocator_adjust s e f) (entities_adjust s e f)
  intro e'
  rw [records?_adjust]
  split
  next he => rw [he, hnone, Option.map_none]
  next => rfl

/-- Two changes of an entity give the same store if they give the same records. -/
theorem adjust_congr {s : Store} {e : Entity} {r : Records} (h : s.records? e = some r)
    {f g : Records → Records} (hfg : f r = g r) :
  s.adjust e f = s.adjust e g
  := by
  apply ext_records? (by simp) (by simp)
  intro e'
  rw [records?_adjust, records?_adjust]
  split
  next he => rw [he, h, Option.map_some, Option.map_some, hfg]
  next => rfl

/-- The store stays as it is if the records of an entity do. -/
theorem adjust_eq_self {s : Store} {e : Entity} {r : Records} (h : s.records? e = some r)
    {f : Records → Records} (hf : f r = r) :
  s.adjust e f = s
  := by
  apply ext_records? (allocator_adjust s e f) (entities_adjust s e f)
  intro e'
  rw [records?_adjust]
  split
  next he => rw [he, h, Option.map_some, hf]
  next => rfl

theorem adjust_adjust (s : Store) (e : Entity) (f g : Records → Records) :
  (s.adjust e f).adjust e g = s.adjust e (g ∘ f)
  := by
  apply ext_records? (by simp) (by simp)
  intro e'
  rw [records?_adjust, records?_adjust, records?_adjust]
  split <;> simp

theorem get?_eq_of_records? {s : Store} {e : Entity} {r : Records} (h : s.records? e = some r)
    (a : Attribute) :
  s.get? e a = r.get? a
  := by
  rw [get?, h, Option.bind_some]

theorem axis?_eq_of_records? {s : Store} {e : Entity} {r : Records} (h : s.records? e = some r)
    (q : Quantity) :
  s.axis? e q = r.axis? q
  := by
  rw [axis?, get?_eq_of_records? h, Records.axis?]

theorem records?_eq_none_iff {s : Store} {e : Entity} :
  s.records? e = none ↔ s.has e = false
  := by
  simp [has]

theorem has_of_get? {s : Store} {e : Entity} {a : Attribute} {v : a.Value}
    (h : s.get? e a = some v) :
  s.has e = true
  := by
  obtain ⟨r, hr, -⟩ := Option.bind_eq_some_iff.1 h
  rw [has, hr, Option.isSome_some]

/-- A created entity is the next one of the allocator, it has no records, and all other
entities keep theirs. -/
theorem create_eq_ok {s t : Store} {e : Entity} (h : s.create = .ok (e, t)) :
  e.index = s.allocator.next ∧ t.allocator.next = s.allocator.next + 1
    ∧ t.entities = s.entities ++ [e]
    ∧ ∀ e', t.records? e' = if e' = e then some {} else s.records? e'
  := by
  rw [create] at h
  split at h
  next hlt =>
    cases h
    use rfl, rfl, by simp [entities]
    intro e'
    by_cases he : e' = ⟨s.allocator.next, hlt⟩
    · subst he
      have hnone := records?_eq_none_iff.2
        (has_of_next_le (s := s) (e := ⟨_, hlt⟩) (Nat.le_refl _))
      rw [records?, Option.map_eq_none_iff] at hnone
      simp [records?, List.find?_append, hnone]
    · simp [records?, List.find?_append, he, Ne.symm he]
  next => cases h

/-- A removed entity has no records, and all other entities keep theirs. -/
theorem records?_remove (s : Store) (e e' : Entity) :
  (s.remove e).records? e' = if e' = e then none else s.records? e'
  := by
  simp only [records?, remove]
  induction s.entries with
  | nil => simp
  | cons p rest ih =>
    by_cases hp : p.1 = e <;> by_cases he : p.1 = e' <;> simp_all

theorem put_eq_ok_iff {s t : Store} {e : Entity} {a : Attribute} {v : a.Value} :
  s.put e a v = .ok t ↔ s.has e = true ∧ s.adjust e (·.set a (some v)) = t
  := by
  rw [put]
  split <;> simp_all

theorem setAxis_eq_ok_iff {s t : Store} {e : Entity} {q : Quantity} {v : Float} :
  s.setAxis e q v = .ok t ↔ s.has e = true ∧ s.adjust e (·.setAxis q v) = t
  := by
  rw [setAxis]
  split <;> simp_all

/-! ### Lists of entities -/

/-- The entities with a record of an attribute are those of which one is read. -/
theorem withAttribute_eq (s : Store) (a : Attribute) :
  s.withAttribute a = s.entities.filter (s.hasRecord · a)
  := by
  rw [withAttribute, entities, List.filter_map]
  congr 1
  apply List.filter_congr
  rintro ⟨e, r⟩ hp
  rw [Function.comp_apply, hasRecord, get?_eq_of_records? (records?_eq_some_iff.2 hp)]

/-- An entity is listed for an attribute exactly if it has a record of it. -/
theorem mem_withAttribute_iff {s : Store} {a : Attribute} {e : Entity} :
  e ∈ s.withAttribute a ↔ s.hasRecord e a = true
  := by
  rw [withAttribute_eq, List.mem_filter, mem_entities_iff]
  constructor
  · apply And.right
  · intro h
    obtain ⟨v, hv⟩ := Option.isSome_iff_exists.1 h
    exact ⟨has_of_get? hv, h⟩

theorem withAttribute_increasing (s : Store) (a : Attribute) :
  (s.withAttribute a).Pairwise (·.index < ·.index)
  := by
  rw [withAttribute_eq]
  apply List.Pairwise.filter
  exact List.pairwise_map.2 s.increasing

theorem count_eq (s : Store) (a : Attribute) :
  s.count a = (s.withAttribute a).length
  := by
  rw [count, withAttribute, List.length_map, List.countP_eq_length_filter]

/-! ### Joints by their names -/

/-- An entity is a joint of a model, and its name is `name`. -/
structure HasJoint (s : Store) (model : Entity) (name : String) (e : Entity) : Prop where
  joint : s.get? e .joint = some ()
  parent : s.get? e .parent = some model
  name : s.get? e .name = some name

/-- A joint of a model is listed among those of the model. -/
theorem HasJoint.mem_joints {s : Store} {model e : Entity} {name : String}
    (h : s.HasJoint model name e) :
  e ∈ s.joints model
  := by
  apply List.mem_filter.2
  constructor
  · apply mem_withAttribute_iff.2
    rw [hasRecord, h.joint, Option.isSome_some]
  · simpa using h.parent

/-- The joint that is looked up is the one with the lowest index among the joints of the
model with that name. -/
theorem jointNamed?_eq_some_iff {s : Store} {model e : Entity} {name : String} :
  s.jointNamed? model name = some e ↔
    s.HasJoint model name e ∧ ∀ e', s.HasJoint model name e' → e.index ≤ e'.index
  := by
  have hfound : ∀ {e}, s.jointNamed? model name = some e → s.HasJoint model name e := by
    intro e h
    have hname := List.find?_some h
    obtain ⟨hjoint, hparent⟩ := List.mem_filter.1 (List.mem_of_find?_eq_some h)
    obtain ⟨⟨⟩, hunit⟩ := Option.isSome_iff_exists.1 (mem_withAttribute_iff.1 hjoint)
    exact ⟨hunit, of_decide_eq_true hparent, of_decide_eq_true hname⟩
  have hfirst : ∀ {e}, s.jointNamed? model name = some e →
      ∀ e', s.HasJoint model name e' → e.index ≤ e'.index := by
    intro e h e' he'
    obtain ⟨-, before, after, hsplit, hbefore⟩ := List.find?_eq_some_iff_append.1 h
    have hincreasing : (s.joints model).Pairwise (·.index < ·.index) :=
      (withAttribute_increasing s .joint).filter _
    have hmem := he'.mem_joints
    rw [hsplit] at hmem hincreasing
    rcases List.mem_append.1 hmem with hmem | hmem
    · have := hbefore e' hmem
      simp [name?, he'.name] at this
    · rcases List.mem_cons.1 hmem with rfl | hmem
      · apply Nat.le_refl _
      · have hcons := (List.pairwise_append.1 hincreasing).2.1
        apply Nat.le_of_lt (List.rel_of_pairwise_cons hcons hmem)
  constructor
  · intro h
    use hfound h, hfirst h
  · rintro ⟨h, hleast⟩
    have hsome : (s.jointNamed? model name).isSome = true := by
      apply List.find?_isSome.2
      exact ⟨e, h.mem_joints, decide_eq_true h.name⟩
    obtain ⟨e', he'⟩ := Option.isSome_iff_exists.1 hsome
    have hindex : e'.index = e.index := Nat.le_antisymm (hfirst he' e h) (hleast e' (hfound he'))
    rw [he']
    cases e
    cases e'
    cases hindex
    rfl

/-- No joint is found exactly if the model has none of that name. -/
theorem jointNamed?_eq_none_iff {s : Store} {model : Entity} {name : String} :
  s.jointNamed? model name = none ↔ ∀ e, ¬ s.HasJoint model name e
  := by
  constructor
  · intro h e he
    have := List.find?_eq_none.1 h e he.mem_joints
    simp [name?, he.name] at this
  · intro h
    cases hfound : s.jointNamed? model name with
    | none => rfl
    | some e => exact absurd (jointNamed?_eq_some_iff.1 hfound).1 (h e)

/-- A joint that is the only one of its name is the one that is looked up. -/
theorem HasJoint.jointNamed? {s : Store} {model e : Entity} {name : String}
    (h : s.HasJoint model name e) (hunique : ∀ e', s.HasJoint model name e' → e' = e) :
  s.jointNamed? model name = some e
  := by
  apply jointNamed?_eq_some_iff.2
  constructor
  · apply h
  · intro e' he'
    apply Nat.le_of_eq (congrArg Entity.index (hunique e' he').symm)

theorem jointNamed?_congr {s t : Store} {model : Entity} {name : String}
    (h : ∀ e, s.HasJoint model name e ↔ t.HasJoint model name e) :
  s.jointNamed? model name = t.jointNamed? model name
  := by
  apply Option.ext
  intro e
  rw [jointNamed?_eq_some_iff, jointNamed?_eq_some_iff]
  simp only [h]

end Store

end Servo
