import Servo.Proofs.Store.Edit

/-!
# The history of a store

An `Archive` is a store with a `Chronicle`, which tells what was asked of the store since it was
empty, and which entities it issued.  The chronicle alone says which entities live
(`Chronicle.lives`) and what was last written (`Chronicle.latest?`).  Every edit keeps a store
`Faithful` to its chronicle, so that `sound_after` can say after any history what is read.
-/

namespace Servo

/-! ### Chronicles -/

/-- Something that happened to a store. -/
inductive Change where
  /-- An entity was issued. -/
  | created (e : Entity)
  | removed (e : Entity)
  | written (e : Entity) (a : Attribute) (v : a.Value)
  /-- A record was taken away. -/
  | erased (e : Entity) (a : Attribute)

/-- The changes of a store, the latest one first. -/
abbrev Chronicle := List Change

namespace Chronicle

/-- The entities that were issued, the latest one first. -/
def issued (past : Chronicle) : List Entity :=
  past.filterMap fun
    | .created e => some e
    | _ => none

/-- Whether an entity was issued and not removed since. -/
def lives (e : Entity) : Chronicle → Bool
  | [] => false
  | .created e' :: past => e' = e || lives e past
  | .removed e' :: past => e' ≠ e && lives e past
  | .written _ _ _ :: past => lives e past
  | .erased _ _ :: past => lives e past

/-- The value that was written last, since the entity was issued and since the record was taken
away. -/
def latest? (e : Entity) (a : Attribute) : Chronicle → Option a.Value
  | [] => none
  | .created e' :: past => if e' = e then none else latest? e a past
  | .removed e' :: past => if e' = e then none else latest? e a past
  | .written e' b v :: past => if h : e' = e ∧ b = a then some (h.2 ▸ v) else latest? e a past
  | .erased e' b :: past => if e' = e ∧ b = a then none else latest? e a past

@[simp]
theorem issued_created (e : Entity) (past : Chronicle) :
  issued (.created e :: past) = e :: issued past
  := rfl

/-- An entity that lives was issued. -/
theorem mem_issued_of_lives {e : Entity} {past : Chronicle} (h : past.lives e = true) :
  e ∈ past.issued
  := by
  induction past with
  | nil => cases h
  | cons c past ih =>
    cases c with
    | created e' =>
      rw [issued_created]
      rw [lives, Bool.or_eq_true, decide_eq_true_eq] at h
      rcases h with rfl | h
      · apply List.mem_cons_self
      · apply List.mem_cons_of_mem _ (ih h)
    | removed e' =>
      rw [lives, Bool.and_eq_true] at h
      apply ih h.2
    | written e' b v => apply ih h
    | erased e' b => apply ih h

end Chronicle

namespace Store

/-! ### What an edit tells -/

/-- Whether an edit asks for a new entity. -/
def Edit.creates : Edit → Bool
  | .create => true
  | .spawnModel _ => true
  | .addJoint _ _ => true
  | _ => false

/-- The entity that a store returns for an edit, if it creates one. -/
def created? (s : Store) : Edit → Option Entity
  | .create => s.create.toOption.map (·.1)
  | .spawnModel name => (s.spawnModel name).toOption.map (·.1)
  | .addJoint model name => (s.addJoint model name).toOption.map (·.1)
  | _ => none

/-- The changes that an edit asks for, the latest one first, if the store returns the entity
`new?` for it. -/
def Edit.changes (past : Chronicle) (new? : Option Entity) : Edit → Chronicle
  | .create => (new?.map .created).toList
  | .remove e => [.removed e]
  | .put e a v => if past.lives e then [.written e a v] else []
  | .mutate e a f => ((past.latest? e a).map fun v => .written e a (f v)).toList
  | .erase e a => [.erased e a]
  | .setAxis e q v =>
    if past.lives e then
      [.written e (.axes q) (Axes.setFirst v ((past.latest? e (.axes q)).getD []))]
    else []
  | .spawnModel name =>
    match new? with
    | some e => [.written e .name name, .written e .model (), .created e]
    | none => []
  | .addJoint model name =>
    match new? with
    | some e =>
      [.written e .parent model, .written e .name name, .written e .joint (), .created e]
    | none => []

/-! ### Faithful stores -/

/-- A store is what its chronicle says. -/
structure Faithful (s : Store) (past : Chronicle) : Prop where
  next : s.allocator.next = past.issued.length
  issued : ∀ e ∈ past.issued, e.index < s.allocator.next
  decreasing : past.issued.Pairwise (·.index > ·.index)
  live : ∀ e, s.has e = past.lives e
  reads : ∀ e a, s.get? e a = past.latest? e a

/-- The empty store has no past. -/
theorem faithful_empty :
  Faithful empty []
  := by
  constructor
  case next => rfl
  case issued => nofun
  case decreasing => exact .nil
  case live => exact fun _ => rfl
  case reads => exact fun _ _ => rfl

namespace Faithful

variable {s t : Store} {past : Chronicle} {e : Entity} {a : Attribute}

/-- Creating an entity keeps a store faithful. -/
theorem created (h : s.Faithful past) (hcreate : s.create = .ok (e, t)) :
  t.Faithful (.created e :: past)
  := by
  obtain ⟨hindex, hnext, -, hrecords⟩ := create_eq_ok hcreate
  constructor
  case next => rw [hnext, Chronicle.issued_created, List.length_cons, h.next]
  case issued =>
    intro e' he'
    rw [hnext]
    rcases List.mem_cons.1 he' with rfl | he'
    · rw [hindex]
      apply Nat.lt_succ_self
    · apply Nat.lt_succ_of_lt (h.issued e' he')
  case decreasing =>
    apply List.Pairwise.cons _ h.decreasing
    intro e' he'
    rw [hindex]
    apply h.issued e' he'
  case live =>
    intro e'
    rw [Chronicle.lives, ← h.live, has, hrecords]
    by_cases he : e = e'
    · rw [if_pos he.symm, decide_eq_true he]
      rfl
    · rw [if_neg (Ne.symm he), decide_eq_false he, Bool.false_or, has]
  case reads =>
    intro e' b
    rw [get?_of_create hcreate, Chronicle.latest?, h.reads]

/-- Removing an entity keeps a store faithful. -/
theorem removed (h : s.Faithful past) (e : Entity) :
  (s.remove e).Faithful (.removed e :: past)
  := by
  constructor
  case next => apply h.next
  case issued => apply h.issued
  case decreasing => apply h.decreasing
  case live =>
    intro e'
    rw [Chronicle.lives, ← h.live, has, records?_remove]
    by_cases he : e = e'
    · rw [if_pos he.symm, decide_eq_false (not_not_intro he)]
      rfl
    · rw [if_neg (Ne.symm he), decide_eq_true he, Bool.true_and, has]
  case reads =>
    intro e' b
    rw [get?_remove, Chronicle.latest?, h.reads]

/-- Writing a record keeps a store faithful. -/
theorem written (h : s.Faithful past) {v : a.Value} (hput : s.put e a v = .ok t) :
  t.Faithful (.written e a v :: past)
  := by
  have hreads := get?_of_put hput
  obtain ⟨-, rfl⟩ := put_eq_ok_iff.1 hput
  constructor
  case next => apply h.next
  case issued => apply h.issued
  case decreasing => apply h.decreasing
  case live =>
    intro e'
    rw [has_adjust, h.live, Chronicle.lives]
  case reads =>
    intro e' b
    rw [hreads, Chronicle.latest?, h.reads]

/-- Taking a record away keeps a store faithful. -/
theorem erased (h : s.Faithful past) (e : Entity) (a : Attribute) :
  (s.erase e a).Faithful (.erased e a :: past)
  := by
  constructor
  case next => apply h.next
  case issued => apply h.issued
  case decreasing => apply h.decreasing
  case live =>
    intro e'
    rw [erase, has_adjust, h.live, Chronicle.lives]
  case reads =>
    intro e' b
    rw [get?_erase, Chronicle.latest?, h.reads]

/-- Putting a record keeps a store faithful, also if it is refused. -/
theorem put (h : s.Faithful past) (e : Entity) (a : Attribute) (v : a.Value) :
  ((s.put e a v).toOption.getD s).Faithful
    ((if past.lives e then [.written e a v] else []) ++ past)
  := by
  rw [← h.live]
  cases hhas : s.has e with
  | false =>
    rw [Store.put, if_neg (by simp [hhas])]
    apply h
  | true =>
    have hput : s.put e a v = .ok (s.adjust e (·.set a (some v))) := put_eq_ok_iff.2 ⟨hhas, rfl⟩
    rw [hput]
    apply h.written hput

/-- Every edit keeps a store faithful. -/
theorem edit (h : s.Faithful past) (y : Edit) :
  (s.edit y).Faithful (y.changes past (s.created? y) ++ past)
  := by
  cases y with
  | create =>
    rw [Store.edit, created?]
    cases hcreate : s.create with
    | error err => apply h
    | ok p => apply h.created hcreate
  | remove e => apply h.removed
  | put e a v => apply h.put
  | mutate e a f =>
    rw [Edit.changes, ← h.reads]
    cases hv : s.get? e a with
    | none =>
      rw [mutate_of_absent hv]
      apply h
    | some v => apply h.written (put_eq_mutate hv f)
  | erase e a => apply h.erased
  | setAxis e q v =>
    rw [Store.edit, Edit.changes, ← h.reads, setAxis_eq_put]
    apply h.put
  | spawnModel name =>
    rw [Store.edit, created?]
    cases hspawn : s.spawnModel name with
    | error err => apply h
    | ok p =>
      -- The new entity is given its records one by one, each of which is a change of its own.
      obtain ⟨⟨e, t⟩, hcreate, hspawn⟩ := eq_ok_of_bind hspawn
      obtain ⟨u, htag, hspawn⟩ := eq_ok_of_bind hspawn
      obtain ⟨v, hname, hspawn⟩ := eq_ok_of_bind hspawn
      cases hspawn
      apply ((h.created hcreate).written htag).written hname
  | addJoint model name =>
    rw [Store.edit, created?]
    cases hadd : s.addJoint model name with
    | error err => apply h
    | ok p =>
      obtain ⟨⟨e, t⟩, hcreate, hadd⟩ := eq_ok_of_bind hadd
      obtain ⟨u, htag, hadd⟩ := eq_ok_of_bind hadd
      obtain ⟨v, hname, hadd⟩ := eq_ok_of_bind hadd
      obtain ⟨w, hparent, hadd⟩ := eq_ok_of_bind hadd
      cases hadd
      apply (((h.created hcreate).written htag).written hname).written hparent

end Faithful

/-! ### Archives -/

/-- A store with its chronicle. -/
structure Archive where
  store : Store
  past : Chronicle

namespace Archive

/-- The archive after an edit. -/
def perform (x : Archive) (y : Edit) : Archive where
  store := x.store.edit y
  past := y.changes x.past (x.store.created? y) ++ x.past

/-- The archive after some edits. -/
def performAll (x : Archive) (later : List Edit) : Archive := later.foldl perform x

/-- The archive that a history leaves when it begins with an empty store. -/
def after (history : List Edit) : Archive := performAll ⟨.empty, []⟩ history

/-- Edits keep a store faithful. -/
theorem faithful_performAll {x : Archive} (h : x.store.Faithful x.past) (later : List Edit) :
  (x.performAll later).store.Faithful (x.performAll later).past
  := by
  induction later generalizing x with
  | nil => apply h
  | cons y later ih => apply ih (h.edit y)

/-- An entity that was issued and is not in the store never comes back. -/
theorem has_performAll {x : Archive} {e : Entity} (hissued : e.index < x.store.allocator.next)
    (hgone : x.store.has e = false) (later : List Edit) :
  (x.performAll later).store.has e = false
  := by
  induction later generalizing x with
  | nil => apply hgone
  | cons y later ih =>
    apply ih
    · apply Nat.lt_of_lt_of_le hissued (next_le_next_edit x.store y)
    · apply has_edit_of_issued hissued hgone

end Archive

/-! ### What a store promises -/

/-- A new entity has the next index, if there is one. -/
theorem created?_eq (s : Store) {y : Edit} (hy : y.creates = true) :
  s.created? y = Entity.ofIndex? s.allocator.next
  := by
  have hcreate : s.create.toOption.map (·.1) = Entity.ofIndex? s.allocator.next := by
    rw [create, Entity.ofIndex?]
    split <;> rfl
  rw [← hcreate]
  cases y with
  | create => rfl
  | spawnModel name =>
    rw [created?, spawnModel_eq]
    cases s.create <;> rfl
  | addJoint model name =>
    rw [created?, addJoint_eq]
    cases s.create <;> rfl
  | _ => cases hy

/-- An edit that asks for no entity creates none. -/
theorem created?_of_not_creates (s : Store) {y : Edit} (hy : y.creates = false) :
  s.created? y = none
  := by
  cases y with
  | create => cases hy
  | spawnModel name => cases hy
  | addJoint model name => cases hy
  | _ => rfl

/-- What is promised of an archive. -/
structure Archive.Sound (x : Archive) : Prop where
  /-- Indices were issued in increasing order, each once. -/
  issued : x.past.issued.Pairwise (·.index > ·.index)
  /-- A new entity has a greater index than all that were issued. -/
  fresh : ∀ y e, x.store.created? y = some e → ∀ e' ∈ x.past.issued, e'.index < e.index
  /-- An entity is created unless all indices were issued. -/
  full : ∀ y, y.creates = true → x.store.created? y = none →
    Entity.capacity ≤ x.past.issued.length
  live : ∀ e, x.store.has e = x.past.lives e
  known : ∀ e, x.store.has e = true → e ∈ x.past.issued
  /-- What is read is what was written last. -/
  reads : ∀ e a, x.store.get? e a = x.past.latest? e a
  isolated : ∀ y e a, y.target? = some (e, a) → ∀ e' b, (e', b) ≠ (e, a) →
    (x.store.edit y).get? e' b = x.store.get? e' b
  /-- No record survives the removal of its entity, whatever is done later. -/
  removed : ∀ e ∈ x.past.issued, ∀ later a,
    ((x.perform (.remove e)).performAll later).store.get? e a = none
  listed : ∀ a, (x.store.withAttribute a).Pairwise (·.index < ·.index)
    ∧ (∀ e, e ∈ x.store.withAttribute a ↔ x.store.has e = true ∧ x.store.hasRecord e a = true)
    ∧ x.store.count a = (x.store.withAttribute a).length
  /-- A record of an entity that does not live is refused, and the store stays as it is. -/
  refused : ∀ e, x.store.has e = false →
    (∀ a v, x.store.put e a v = .error (.notFound e) ∧ x.store.edit (.put e a v) = x.store)
      ∧ ∀ q v, x.store.setAxis e q v = .error (.notFound e)
        ∧ x.store.edit (.setAxis e q v) = x.store
  accepted : ∀ e, x.store.has e = true →
    (∀ a v, ∃ t, x.store.put e a v = .ok t)
      ∧ ∀ q v, ∃ t, x.store.setAxis e q v = .ok t ∧ t.axis? e q = some v
        ∧ t.get? e (.axes q) = some (v :: ((x.store.get? e (.axes q)).getD []).tail)

namespace Faithful

variable {s : Store} {past : Chronicle}

/-- The entity that a faithful store creates was not issued before. -/
theorem fresh (h : s.Faithful past) {y : Edit} {e : Entity} (hy : s.created? y = some e) :
  ∀ e' ∈ past.issued, e'.index < e.index
  := by
  intro e' he'
  cases hcreates : y.creates with
  | false =>
    rw [created?_of_not_creates s hcreates] at hy
    cases hy
  | true =>
    rw [created?_eq s hcreates, Entity.ofIndex?] at hy
    split at hy
    · cases hy
      apply h.issued e' he'
    · cases hy

/-- A faithful store creates an entity as long as an index is left. -/
theorem full (h : s.Faithful past) {y : Edit} (hcreates : y.creates = true)
    (hy : s.created? y = none) :
  Entity.capacity ≤ past.issued.length
  := by
  rw [created?_eq s hcreates, Entity.ofIndex?] at hy
  split at hy
  · cases hy
  next hfull =>
    rw [← h.next]
    apply Nat.le_of_not_lt hfull

/-- A faithful store keeps what is promised of it. -/
theorem sound {x : Archive} (h : x.store.Faithful x.past) :
  x.Sound
  := by
  constructor
  case issued => apply h.decreasing
  case fresh => exact fun y e => h.fresh
  case full => exact fun y => h.full
  case live => apply h.live
  case known =>
    intro e he
    apply Chronicle.mem_issued_of_lives
    rw [← h.live, he]
  case reads => apply h.reads
  case isolated =>
    intro y e a hy e' b hne
    apply get?_edit_of_target hy hne
  case removed =>
    intro e he later a
    have hgone : (x.perform (.remove e)).store.has e = false := by
      rw [Archive.perform, Store.edit, has, records?_remove, if_pos rfl]
      rfl
    have hhas := Archive.has_performAll (x := x.perform (.remove e)) (h.issued e he) hgone
      later
    rw [get?, records?_eq_none_iff.2 hhas, Option.bind_none]
  case listed =>
    intro a
    refine ⟨withAttribute_increasing _ a, ?_, count_eq _ a⟩
    intro e
    rw [withAttribute_eq, List.mem_filter, mem_entities_iff]
  case refused => exact fun e => refuses
  case accepted => exact fun e => accepts

end Faithful

/-- After any history that began with an empty store everything that is promised of it holds:
indices are issued once and in increasing order, a record is read as it was written last, no record
survives its entity, and only entities that live can be given records. -/
theorem sound_after (history : List Edit) :
  (Archive.after history).Sound
  := by
  have h := Archive.faithful_performAll (x := ⟨.empty, []⟩) faithful_empty history
  apply h.sound

end Store

end Servo
