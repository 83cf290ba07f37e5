import Servo.Entity

/-!
# Finding the joint

A `Resolver` looks an entity up by its name until it is found, and remembers it from then
on.
-/

namespace Servo.Controller

/-- The name of an entity, and the entity once it has been found. -/
structure Resolver where
  name : String
  handle : Option Entity := none
  deriving DecidableEq

namespace Resolver

/-- Whether the entity has been found. -/
def isResolved (r : Resolver) : Bool := r.handle.isSome

/-- The name that `resolve` looks up, unless the entity has been found. -/
def query? (r : Resolver) : Option String :=
  if r.isResolved then none else some r.name

/-- The resolver after one more attempt. -/
def resolve (r : Resolver) (lookup : String → Option Entity) : Resolver :=
  match r.query? with
  | none => r
  | some name => { r with handle := lookup name }

end Resolver

end Servo.Controller
