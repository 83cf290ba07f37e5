import Servo.Document.Dialect

/-!
# Shapes

A `Shape` says which parts of a tree are looked at when a value of some type is read.
Reading follows the references in these parts, and since a reference can stand for a tree
with many references, a small document can stand for a very large one.  So reading a tree
is paid for: `Dialect.spend?` takes one from an allowance for every reference that is
followed.
-/

namespace Servo.Document

mutual

/-- What is looked at in a tree. -/
inductive Shape where
  /-- The tree has no parts to look at. -/
  | scalar
  | list (item : Shape)
  /-- The values of all keys of a map. -/
  | dictionary (value : Shape)
  | record (fields : Fields)

/-- The keys of a record with the shapes of their values. -/
inductive Fields where
  | nil
  | cons (key : String) (shape : Shape) (rest : Fields)

end

namespace Fields

/-- The fields with given keys and shapes. -/
def ofList : List (String × Shape) → Fields
  | [] => nil
  | (key, shape) :: rest => cons key shape (ofList rest)

/-- The keys, in their order. -/
def keys : Fields → List String
  | nil => []
  | cons key _ rest => key :: rest.keys

end Fields

namespace Dialect

variable {α : Type} (d : Dialect α)

/-- The tree for which a tree stands, and what is left of an allowance for references. -/
def follow? (allowance : Nat) : Tree α → Option (Tree α × Nat)
  | .leaf a =>
    match d.target? a with
    | none => some (.leaf a, allowance)
    | some t => if allowance = 0 then none else some (t, allowance - 1)
  | t => some (t, allowance)

mutual

/-- What is left of an allowance when a tree of some shape is read; none if it does not
suffice. -/
def spend? : Shape → (allowance : Nat) → Tree α → Option Nat
  | .scalar, n, t => (d.follow? n t).map (·.2)
  | .list item, n, t => do
    match ← d.follow? n t with
    | (.list ts, n) => ts.foldlM (fun n t => spend? item n t) n
    | (_, n) => return n
  | .dictionary value, n, t => do
    match ← d.follow? n t with
    | (.map members, n) =>
      members.foldlM (fun n m => do
        let (_, n) ← d.follow? n (.leaf m.1)
        spend? value n m.2) n
    | (_, n) => return n
  | .record fields, n, t => do
    match ← d.follow? n t with
    | (.map members, n) =>
      members.foldlM (fun n m => do
        let (key, n) ← d.follow? n (.leaf m.1)
        match key with
        | .leaf a => spendField? fields (d.text? a) n m.2
        | _ => return n) n
    | (_, n) => return n

/-- What is left of an allowance when the value of a key of a record is read.  The value of
an unknown key is not. -/
def spendField? : Fields → (key : Option String) → (allowance : Nat) → Tree α → Option Nat
  | .nil, _, n, _ => some n
  | .cons name shape rest, key, n, t =>
    if key = some name then spend? shape n t else spendField? rest key n t

end

end Dialect

end Servo.Document
