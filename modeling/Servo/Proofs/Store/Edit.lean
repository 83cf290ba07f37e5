import Servo.Proofs.Store.View

/-!
# Edits of a store

A store may be changed from outside: a `Store.Edit` is one of the changes, and `Store.edit`
makes it.  No edit issues an index a second time, so an entity that was removed never comes
back (`has_edit_of_issued`).  `spawnModel_eq_ok` and `addJoint_eq_ok` say what is read after a model
or a joint was added, and `get?_of_put` and the lemmas beside it what is read after a change of one
record, which keeps all others (`get?_edit_of_target`).
-/

namespace Servo.Store

/-! ### New models and joints -/

theorem create_of_room {s : Store} (h : s.allocator.next < Entity.capacity) :
  ∃ p, s.create = .ok p
  := by
  rw [create, dif_pos h]
  exact ⟨_, rfl⟩

theorem create_of_full {s : Store} (h : Entity.capacity ≤ s.allocator.next) :
  s.create = .error .exhausted
  := by
  rw [create, dif_neg (Nat.not_lt_of_le h)]

theorem put_of_records? {s : Store} {e : Entity} {r : Records} (h : s.records? e = some r)
    (a : Attribute) (v : a.Value) :
  s.put e a v = .ok (s.adjust e fun _ => r.set a (some v))
  := by
  have hhas : s.has e = true := by rw [has, h, Option.isSome_some]
  rw [put, if_pos hhas, adjust_congr h (g := fun _ => r.set a (some v)) rfl]

theorem records?_adjust_const {s : Store} {e : Entity} {r : Records} (h : s.records? e = some r)
    (r' : Records) :
  (s.adjust e fun _ => r').records? e = some r'
  := by
  rw [records?_adjust_self, h, Option.map_some]

theorem adjust_const_adjust_const (s : Store) (e : Entity) (r r' : Records) :
  (s.adjust e fun _ => r).adjust e (fun _ => r') = s.adjust e fun _ => r'
  := adjust_adjust s e _ _

/-- A new model is a created entity with its name. -/
theorem spawnModel_eq (s : Store) (name : String) :
  s.spawnModel name = s.create.map fun (e, t) =>
    (e, t.adjust e fun _ => { name := some name, model := some () })
  := by
  rw [spawnModel]
  cases h : s.create with
  | error err => rfl
  | ok p =>
    obtain ⟨e, t⟩ := p
    have hnew : t.records? e = some {} := by rw [(create_eq_ok h).2.2.2 e, if_pos rfl]
    simp only [bind, Except.bind, put_of_records? hnew,
      put_of_records? (records?_adjust_const hnew _), adjust_const_adjust_const]
    rfl

/-- A new joint is a created entity with its name and its model. -/
theorem addJoint_eq (s : Store) (model : Entity) (name : String) :
  s.addJoint model name = s.create.map fun (e, t) =>
    (e, t.adjust e fun _ => { name := some name, joint := some (), parent := some model })
  := by
  rw [addJoint]
  cases h : s.create with
  | error err => rfl
  | ok p =>
    obtain ⟨e, t⟩ := p
    have hnew : t.records? e = some {} := by rw [(create_eq_ok h).2.2.2 e, if_pos rfl]
    simp only [bind, Except.bind, put_of_records? hnew,
      put_of_records? (records?_adjust_const hnew _), adjust_const_adjust_const]
    rfl

/-- The store `t` is the store `s` with one more entity, which has the records `r`. -/
structure Extends (s t : Store) (e : Entity) (r : Records) : Prop where
  index : e.index = s.allocator.next
  next : t.allocator.next = s.allocator.next + 1
  entities : t.entities = s.entities ++ [e]
  records : ∀ e', t.records? e' = if e' = e then some r else s.records? e'

/-- Creating an entity and giving it records extends a store. -/
theorem extends_of_create {s t u : Store} {e e' : Entity} {r : Records}
    (h : s.create.map (fun (e, t) => (e, t.adjust e fun _ => r)) = .ok (e', u))
    (hcreate : s.create = .ok (e, t)) :
  Extends s u e' r
  := by
  rw [hcreate] at h
  cases h
  obtain ⟨hindex, hnext, hentities, hrecords⟩ := create_eq_ok hcreate
  constructor
  case index => apply hindex
  case next => apply hnext
  case entities => rw [entities_adjust, hentities]
  case records =>
    intro e'
    rw [records?_adjust, hrecords]
    split <;> simp

/-- A new model has its name and nothing else. -/
theorem spawnModel_eq_ok {s t : Store} {name : String} {e : Entity}
    (h : s.spawnModel name = .ok (e, t)) :
  Extends s t e { name := some name, model := some () }
  := by
  rw [spawnModel_eq] at h
  cases hcreate : s.create with
  | error err => rw [hcreate] at h; cases h
  | ok p => apply extends_of_create h hcreate

/-- A new joint has its name and its model and nothing else. -/
theorem addJoint_eq_ok {s t : Store} {model e : Entity} {name : String}
    (h : s.addJoint model name = .ok (e, t)) :
  Extends s t e { name := some name, joint := some (), parent := some model }
  := by
  rw [addJoint_eq] at h
  cases hcreate : s.create with
  | error err => rw [hcreate] at h; cases h
  | ok p => apply extends_of_create h hcreate

/-- The new entity comes behind all others. -/
theorem Extends.entries {s t : Store} {e : Entity} {r : Records} (h : Extends s t e r) :
  t.entries = s.entries ++ [(e, r)]
  := by
  have hnot : e ∉ s.entities := by
    rw [mem_entities_iff, has_of_next_le (Nat.le_of_eq h.index.symm)]
    apply Bool.false_ne_true
  have holder : s.entities.filterMap (fun e' => (t.records? e').map (e', ·))
      = s.entities.filterMap fun e' => (s.records? e').map (e', ·) := by
    apply List.filterMap_congr
    intro e' he'
    have hne : e' ≠ e := by
      rintro rfl
      apply hnot he'
    rw [h.records, if_neg hne]
  rw [entries_eq t, entries_eq s, h.entities, List.filterMap_append, holder]
  congr 1
  rw [List.filterMap_cons_some (b := (e, r)), List.filterMap_nil]
  rw [h.records, if_pos rfl, Option.map_some]

/-- The records of the new entity are changed. -/
theorem Extends.adjust {s t : Store} {e : Entity} {r : Records} (h : Extends s t e r)
    (f : Records → Records) :
  Extends s (t.adjust e f) e (f r)
  := by
  constructor
  case index => apply h.index
  case next => apply h.next
  case entities => rw [entities_adjust, h.entities]
  case records =>
    intro e'
    rw [records?_adjust, h.records]
    split <;> simp

/-! ### Edits -/

/-- A change of a store from outside. -/
inductive Edit where
  | create
  | remove (e : Entity)
  | put (e : Entity) (a : Attribute) (v : a.Value)
  /-- Changes a record, if there is one. -/
  | mutate (e : Entity) (a : Attribute) (f : a.Value → a.Value)
  /-- Takes a record away. -/
  | erase (e : Entity) (a : Attribute)
  | setAxis (e : Entity) (q : Quantity) (v : Float)
  | spawnModel (name : String)
  | addJoint (model : Entity) (name : String)

/-- The store after an edit; one that is refused changes nothing. -/
def edit (s : Store) : Edit → Store
  | .create => (s.create.toOption.map (·.2)).getD s
  | .remove e => s.remove e
  | .put e a v => (s.put e a v).toOption.getD s
  | .mutate e a f => s.adjust e fun r => r.set a ((r.get? a).map f)
  | .erase e a => s.erase e a
  | .setAxis e q v => (s.setAxis e q v).toOption.getD s
  | .spawnModel name => ((s.spawnModel name).toOption.map (·.2)).getD s
  | .addJoint model name => ((s.addJoint model name).toOption.map (·.2)).getD s

theorem extends_create {s t : Store} {e : Entity} (h : s.create = .ok (e, t)) :
  Extends s t e {}
  := by
  obtain ⟨hindex, hnext, hentities, hrecords⟩ := create_eq_ok h
  use hindex, hnext, hentities, hrecords

/-- An edit is refused, adds an entity, removes one or changes the records of one. -/
theorem edit_cases (s : Store) (x : Edit) :
  s.edit x = s ∨ (∃ e r, Extends s (s.edit x) e r) ∨ (∃ e, s.edit x = s.remove e)
    ∨ ∃ e f, s.edit x = s.adjust e f
  := by
  cases x with
  | create =>
    simp only [edit]
    cases h : s.create with
    | error err => exact .inl rfl
    | ok p => exact .inr (.inl ⟨p.1, {}, extends_create h⟩)
  | remove e => exact .inr (.inr (.inl ⟨e, rfl⟩))
  | put e a v =>
    simp only [edit]
    cases h : s.put e a v with
    | error err => exact .inl rfl
    | ok t => exact .inr (.inr (.inr ⟨e, _, (put_eq_ok_iff.1 h).2.symm⟩))
  | mutate e a f =>
    simp only [edit]
    exact .inr (.inr (.inr ⟨e, fun r => r.set a ((r.get? a).map f), rfl⟩))
  | erase e a => exact .inr (.inr (.inr ⟨e, (·.set a none), rfl⟩))
  | setAxis e q v =>
    simp only [edit]
    cases h : s.setAxis e q v with
    | error err => exact .inl rfl
    | ok t => exact .inr (.inr (.inr ⟨e, _, (setAxis_eq_ok_iff.1 h).2.symm⟩))
  | spawnModel name =>
    simp only [edit]
    cases h : s.spawnModel name with
    | error err => exact .inl rfl
    | ok p => exact .inr (.inl ⟨p.1, _, spawnModel_eq_ok h⟩)
  | addJoint model name =>
    simp only [edit]
    cases h : s.addJoint model name with
    | error err => exact .inl rfl
    | ok p => exact .inr (.inl ⟨p.1, _, addJoint_eq_ok h⟩)

/-- What was issued stays issued. -/
theorem next_le_next_edit (s : Store) (x : Edit) :
  s.allocator.next ≤ (s.edit x).allocator.next
  := by
  rcases edit_cases s x with h | ⟨e, r, h⟩ | ⟨e, h⟩ | ⟨e, f, h⟩
  · apply Nat.le_of_eq (congrArg (·.allocator.next) h.symm)
  · apply Nat.le_of_lt (Nat.lt_of_lt_of_eq (Nat.lt_succ_self _) h.next.symm)
  · apply Nat.le_of_eq (congrArg (·.allocator.next) h.symm)
  · apply Nat.le_of_eq (congrArg (·.allocator.next) h.symm)

/-- An entity that was issued and is not in the store any more never comes back. -/
theorem has_edit_of_issued {s : Store} {e : Entity} (hissued : e.index < s.allocator.next)
    (hgone : s.has e = false) (x : Edit) :
  (s.edit x).has e = false
  := by
  rcases edit_cases s x with h | ⟨e', r, h⟩ | ⟨e', h⟩ | ⟨e', f, h⟩
  · rw [h, hgone]
  · have hne : e ≠ e' := by
      intro hee
      rw [hee, h.index] at hissued
      apply Nat.lt_irrefl _ hissued
    rw [has, h.records, if_neg hne]
    apply hgone
  · rw [h, has, records?_remove]
    split
    · rfl
    · apply hgone
  · rw [h, has_adjust, hgone]

/-! ### Reading after a change -/

section Reading

variable {s t : Store} {e : Entity} {a : Attribute}

/-- A new entity has no records, and all other entities keep theirs. -/
theorem get?_of_create (h : s.create = .ok (e, t)) (e' : Entity) (b : Attribute) :
  t.get? e' b = if e = e' then none else s.get? e' b
  := by
  obtain ⟨-, -, -, hrecords⟩ := create_eq_ok h
  rw [get?, hrecords]
  split
  next he =>
    rw [if_pos he.symm]
    rcases b with _ | _ | _ | _ | _ | _ | _ <;> rfl
  next he =>
    rw [if_neg (Ne.symm he)]
    rfl

/-- A removed entity has no records, and all other entities keep theirs. -/
theorem get?_remove (s : Store) (e e' : Entity) (b : Attribute) :
  (s.remove e).get? e' b = if e = e' then none else s.get? e' b
  := by
  rw [get?, records?_remove]
  split
  next he =>
    rw [if_pos he.symm]
    rfl
  next he =>
    rw [if_neg (Ne.symm he)]
    rfl

/-- A value that is put is read, and all other records stay. -/
theorem get?_of_put {v : a.Value} (h : s.put e a v = .ok t) (e' : Entity) (b : Attribute) :
  t.get? e' b = if h : e = e' ∧ a = b then some (h.2 ▸ v) else s.get? e' b
  := by
  obtain ⟨hhas, rfl⟩ := put_eq_ok_iff.1 h
  obtain ⟨r, hr⟩ := Option.isSome_iff_exists.1 hhas
  by_cases he : e = e'
  · subst he
    rw [get?, records?_adjust_self, hr, Option.map_some, Option.bind_some]
    by_cases hab : a = b
    · subst hab
      rw [dif_pos ⟨rfl, rfl⟩, Records.get?_set_self]
    · rw [dif_neg (hab ∘ And.right), Records.get?_set_of_ne (Ne.symm hab),
        get?_eq_of_records? hr]
  · rw [dif_neg (he ∘ And.left), get?, records?_adjust_of_ne (Ne.symm he), get?]

/-- A record that is erased is not read, and all other records stay. -/
theorem get?_erase (s : Store) (e : Entity) (a : Attribute) (e' : Entity) (b : Attribute) :
  (s.erase e a).get? e' b = if e = e' ∧ a = b then none else s.get? e' b
  := by
  rw [erase, get?, records?_adjust]
  by_cases he : e = e'
  · subst he
    rw [if_pos rfl, Option.bind_map, get?]
    by_cases hab : a = b
    · subst hab
      rw [if_pos ⟨rfl, rfl⟩]
      cases s.records? e with
      | none => rfl
      | some r => apply Records.get?_set_self
    · rw [if_neg (hab ∘ And.right)]
      congr 1
      funext r
      apply Records.get?_set_of_ne (Ne.symm hab)
  · rw [if_neg (Ne.symm he), if_neg (he ∘ And.left), get?]

/-- Changing a record that there is is putting it. -/
theorem put_eq_mutate {v : a.Value} (h : s.get? e a = some v) (f : a.Value → a.Value) :
  s.put e a (f v) = .ok (s.edit (.mutate e a f))
  := by
  obtain ⟨r, hr, hv⟩ := Option.bind_eq_some_iff.1 h
  have hhas : s.has e = true := has_of_get? h
  rw [put, if_pos hhas, edit]
  congr 1
  apply adjust_congr hr
  rw [hv, Option.map_some]

/-- A record that there is not is not changed. -/
theorem mutate_of_absent (h : s.get? e a = none) (f : a.Value → a.Value) :
  s.edit (.mutate e a f) = s
  := by
  rw [edit]
  cases hr : s.records? e with
  | none => apply adjust_of_not_has (records?_eq_none_iff.1 hr)
  | some r =>
    apply adjust_eq_self hr
    rw [← get?_eq_of_records? hr, h, Option.map_none, ← h, get?_eq_of_records? hr,
      Records.set_get?]

/-- Setting a first axis is putting a record that keeps the further axes. -/
theorem setAxis_eq_put (s : Store) (e : Entity) (q : Quantity) (v : Float) :
  s.setAxis e q v = s.put e (.axes q) (Axes.setFirst v ((s.get? e (.axes q)).getD []))
  := by
  rw [setAxis, put]
  split
  next hhas =>
    obtain ⟨r, hr⟩ := Option.isSome_iff_exists.1 hhas
    congr 1
    apply adjust_congr hr
    rw [get?_eq_of_records? hr]
    rfl
  next => rfl

end Reading

/-! ### Edits of one record -/

/-- The record that an edit is about. -/
def Edit.target? : Edit → Option (Entity × Attribute)
  | .put e a _ => some (e, a)
  | .mutate e a _ => some (e, a)
  | .erase e a => some (e, a)
  | .setAxis e q _ => some (e, .axes q)
  | _ => none

/-- An edit that is about one record keeps all others. -/
theorem get?_edit_of_target {s : Store} {y : Edit} {e : Entity} {a : Attribute}
    (hy : y.target? = some (e, a)) {e' : Entity} {b : Attribute} (hne : (e', b) ≠ (e, a)) :
  (s.edit y).get? e' b = s.get? e' b
  := by
  have hnot : ¬ (e = e' ∧ a = b) := by
    rintro ⟨rfl, rfl⟩
    apply hne rfl
  have hput : ∀ v, ((s.put e a v).toOption.getD s).get? e' b = s.get? e' b := by
    intro v
    cases hput : s.put e a v with
    | error err => rfl
    | ok t =>
      apply Eq.trans (get?_of_put hput e' b)
      rw [dif_neg hnot]
  cases y with
  | put e₁ a₁ v =>
    cases hy
    apply hput
  | mutate e₁ a₁ f =>
    cases hy
    cases hv : s.get? e a with
    | none => rw [mutate_of_absent hv]
    | some v =>
      have := hput (f v)
      rw [put_eq_mutate hv] at this
      apply this
  | erase e₁ a₁ =>
    cases hy
    rw [edit, get?_erase, if_neg hnot]
  | setAxis e₁ q v =>
    cases hy
    rw [edit, setAxis_eq_put]
    apply hput
  | _ => cases hy

/-- A store refuses the records of entities that are not in it. -/
theorem refuses {s : Store} {e : Entity} (h : s.has e = false) :
  (∀ a v, s.put e a v = .error (.notFound e) ∧ s.edit (.put e a v) = s)
    ∧ ∀ q v, s.setAxis e q v = .error (.notFound e) ∧ s.edit (.setAxis e q v) = s
  := by
  have hput : ∀ a v, s.put e a v = .error (.notFound e) := by
    intro a v
    rw [put, if_neg (by simp [h])]
  have haxis : ∀ q v, s.setAxis e q v = .error (.notFound e) := by
    intro q v
    rw [setAxis_eq_put, hput]
  constructor
  · intro a v
    refine ⟨hput a v, ?_⟩
    rw [edit, hput]
    rfl
  · intro q v
    refine ⟨haxis q v, ?_⟩
    rw [edit, haxis]
    rfl

/-- A store accepts the records of its entities, and setting a first axis keeps the further ones. -/
theorem accepts {s : Store} {e : Entity} (h : s.has e = true) :
  (∀ a v, ∃ t, s.put e a v = .ok t)
    ∧ ∀ q v, ∃ t, s.setAxis e q v = .ok t ∧ t.axis? e q = some v
      ∧ t.get? e (.axes q) = some (v :: ((s.get? e (.axes q)).getD []).tail)
  := by
  have hput : ∀ a v, ∃ t, s.put e a v = .ok t := fun a v => ⟨_, put_eq_ok_iff.2 ⟨h, rfl⟩⟩
  refine ⟨hput, ?_⟩
  intro q v
  obtain ⟨t, ht⟩ := hput (.axes q) (Axes.setFirst v ((s.get? e (.axes q)).getD []))
  have hread : t.get? e (.axes q) = some (v :: ((s.get? e (.axes q)).getD []).tail) := by
    rw [get?_of_put ht, dif_pos ⟨rfl, rfl⟩]
    cases (s.get? e (.axes q)).getD [] <;> rfl
  refine ⟨t, by rw [setAxis_eq_put, ht], ?_, hread⟩
  rw [axis?, hread]
  rfl

end Servo.Store
