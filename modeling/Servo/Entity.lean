/-!
# Entities

An `Entity` is known by its index, and an `Entity.Allocator` issues entities with
increasing indices, each once.
-/

namespace Servo

/-- The number of indices: the largest index of 32 bits does not exist. -/
def Entity.capacity : Nat := 0xFFFFFFFF

/-- Something that records can be attached to. -/
structure Entity where
  index : Nat
  isLt : index < Entity.capacity
  deriving DecidableEq

namespace Entity

theorem capacity_pos :
  0 < capacity
  := by decide

/-- The wording of the error that no index is left. -/
def exhausted : String := "Id space exhausted: entity"

/-- The entity with an index. -/
def ofIndex? (index : Nat) : Option Entity :=
  if h : index < capacity then some ⟨index, h⟩ else none

/-- An entity in messages. -/
def message (e : Entity) : String := toString e.index

/-- An entity in descriptions of values. -/
def description (e : Entity) : String := "Entity(" ++ toString e.index ++ ")"

/-- An entity that may be missing, in descriptions of values. -/
def describeOption : Option Entity → String
  | none => "None"
  | some e => "Some(" ++ e.description ++ ")"

/-- Issues entities in the order of their indices. -/
structure Allocator where
  /-- The index of the next entity. -/
  next : Nat := 0
  deriving DecidableEq

namespace Allocator

/-- The next entity; there is none if all indices are used. -/
def allocate (a : Allocator) : Option (Entity × Allocator) :=
  (ofIndex? a.next).map fun e => (e, ⟨a.next + 1⟩)

/-- The results of `n` allocations in a row, with the allocator after them.  A failed
allocation changes nothing. -/
def allocateMany (a : Allocator) : (n : Nat) → List (Option Entity) × Allocator
  | 0 => ([], a)
  | n + 1 =>
    match a.allocate with
    | none =>
      let (later, b) := a.allocateMany n
      (none :: later, b)
    | some (e, next) =>
      let (later, b) := next.allocateMany n
      (some e :: later, b)

/-- An allocator in descriptions of values. -/
def description (a : Allocator) : String :=
  "EntityAllocator \x7b next: " ++ toString a.next ++ " \x7d"

end Allocator

end Entity

end Servo
