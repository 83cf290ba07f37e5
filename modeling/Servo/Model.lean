import Servo.Store

/-!
# Models

A model is an entity that owns joints: `Store.spawnModel` and `Store.addJoint` create
them, `Store.joints` lists the joints of a model, and `Store.jointNamed?` finds one of
them by its name.
-/

namespace Servo.Store

/-- The store with a new model of a given name. -/
def spawnModel (s : Store) (name : String) : Except Error (Entity × Store) := do
  let (e, s) ← s.create
  let s ← s.put e .model ()
  let s ← s.put e .name name
  return (e, s)

/-- The store with a new joint of a given name, which `model` owns. -/
def addJoint (s : Store) (model : Entity) (name : String) : Except Error (Entity × Store) := do
  let (e, s) ← s.create
  let s ← s.put e .joint ()
  let s ← s.put e .name name
  let s ← s.put e .parent model
  return (e, s)

/-- Whether an entity is a model. -/
def isModel (s : Store) (e : Entity) : Bool := s.hasRecord e .model

/-- The name of an entity. -/
def name? (s : Store) (e : Entity) : Option String := s.get? e .name

/-- The joints of a model, in the order of their creation. -/
def joints (s : Store) (model : Entity) : List Entity :=
  (s.withAttribute .joint).filter fun e => s.get? e .parent = some model

/-- The first joint of a model that has a given name. -/
def jointNamed? (s : Store) (model : Entity) (name : String) : Option Entity :=
  (s.joints model).find? fun e => s.name? e = some name

end Servo.Store
