import Servo.Record

/-!
# The store

A `Store` holds the entities that were created and not removed, each with its records, in
the order in which they were created.  `Store.get?` reads a record, `Store.put`,
`Store.erase` and `Store.setAxis` change one, and `Store.withAttribute` lists the entities
that have a record of an attribute.
-/

namespace Servo

/-- Entities with their records. -/
structure Store where
  allocator : Entity.Allocator
  entries : List (Entity × Records)
  increasing : entries.Pairwise (fun p q => p.1.index < q.1.index)
  issued : ∀ p ∈ entries, p.1.index < allocator.next

namespace Store

/-- The store without entities. -/
def empty : Store where
  allocator := {}
  entries := []
  increasing := .nil
  issued _ hp := nomatch hp

instance : Inhabited Store := ⟨empty⟩

/-- Why a change of the store is refused. -/
inductive Error where
  /-- No index is left for a new entity. -/
  | exhausted
  /-- The entity was never created, or it was removed. -/
  | notFound (e : Entity)
  deriving DecidableEq

/-- The wording of an error. -/
def Error.message : Error → String
  | .exhausted => Entity.exhausted
  | .notFound e => "Entity not found: " ++ e.message

/-! ### Entities -/

/-- The entities, in the order of their creation. -/
def entities (s : Store) : List Entity := s.entries.map (·.1)

/-- The records of an entity. -/
def records? (s : Store) (e : Entity) : Option Records :=
  (s.entries.find? (·.1 = e)).map (·.2)

/-- Whether an entity is in the store. -/
def has (s : Store) (e : Entity) : Bool := (s.records? e).isSome

/-- The store with an entity of the next index, without records. -/
def create (s : Store) : Except Error (Entity × Store) :=
  if h : s.allocator.next < Entity.capacity then
    .ok (⟨s.allocator.next, h⟩,
      { allocator := ⟨s.allocator.next + 1⟩
        entries := s.entries ++ [(⟨s.allocator.next, h⟩, {})]
        increasing := by
          refine List.pairwise_append.2 ⟨s.increasing, List.pairwise_singleton _ _, ?_⟩
          intro p hp q hq
          rw [List.mem_singleton.1 hq]
          exact s.issued p hp
        issued := by
          intro p hp
          rcases List.mem_append.1 hp with hp | hp
          · exact Nat.lt_succ_of_lt (s.issued p hp)
          · rw [List.mem_singleton.1 hp]
            exact Nat.lt_succ_self _ })
  else .error .exhausted

/-- The store without an entity and its records. -/
def remove (s : Store) (e : Entity) : Store where
  allocator := s.allocator
  entries := s.entries.filter (·.1 ≠ e)
  increasing := s.increasing.filter _
  issued p hp := s.issued p (List.mem_filter.1 hp).1

/-! ### Records -/

/-- The record of an attribute of an entity. -/
def get? (s : Store) (e : Entity) (a : Attribute) : Option a.Value :=
  (s.records? e).bind (·.get? a)

/-- Whether an entity has a record of an attribute. -/
def hasRecord (s : Store) (e : Entity) (a : Attribute) : Bool := (s.get? e a).isSome

/-- The value of the first axis of a quantity. -/
def axis? (s : Store) (e : Entity) (q : Quantity) : Option Float :=
  (s.get? e (.axes q)).bind Axes.first?

/-- The store with the records of one entity changed by `f`. -/
def adjust (s : Store) (e : Entity) (f : Records → Records) : Store where
  allocator := s.allocator
  entries := s.entries.map fun p => if p.1 = e then (p.1, f p.2) else p
  increasing := by
    refine List.pairwise_map.2 (s.increasing.imp ?_)
    intro p q h
    split <;> split <;> exact h
  issued := by
    intro p hp
    obtain ⟨q, hq, rfl⟩ := List.mem_map.1 hp
    split <;> exact s.issued q hq

/-- The store with a record of an entity, which replaces one of the same attribute. -/
def put (s : Store) (e : Entity) (a : Attribute) (v : a.Value) : Except Error Store :=
  if s.has e then .ok (s.adjust e (·.set a (some v))) else .error (.notFound e)

/-- The store without a record. -/
def erase (s : Store) (e : Entity) (a : Attribute) : Store :=
  s.adjust e (·.set a none)

/-- The store with the first axis of a quantity replaced; a missing record is made. -/
def setAxis (s : Store) (e : Entity) (q : Quantity) (v : Float) : Except Error Store :=
  if s.has e then .ok (s.adjust e (·.setAxis q v)) else .error (.notFound e)

/-- The entities with a record of an attribute, in the order of their creation. -/
def withAttribute (s : Store) (a : Attribute) : List Entity :=
  (s.entries.filter (fun p => (p.2.get? a).isSome)).map (·.1)

/-- The number of entities with a record of an attribute. -/
def count (s : Store) (a : Attribute) : Nat :=
  s.entries.countP (fun p => (p.2.get? a).isSome)

/-- The store in descriptions of values. -/
def description (s : Store) : String :=
  "EntityComponentManager \x7b entities: " ++ toString s.entries.length ++ " \x7d"

end Store

end Servo
