import Servo.Document.Controller
import Servo.World

/-!
# Documents of worlds

`World.codec` reads and writes worlds.  The version and the names are required, as are all
members of a command and the type of a plugin; everything else may be left out.
-/

namespace Servo.World

open Document

/-! ### Fields -/

/-- The fields of physics. -/
def Physics.fields : Fields := .ofList [("inertia", .scalar), ("damping", .scalar)]

/-- The fields of a joint. -/
def Joint.fields : Fields := .ofList [("name", .scalar), ("initial_velocity", .scalar)]

/-- The fields of a plugin. -/
def Plugin.fields : Fields := .ofList [("type", .scalar), ("params", Params.shape)]

/-- The fields of a model. -/
def Model.fields : Fields :=
  .ofList [("name", .scalar), ("joints", .list (.record Joint.fields)),
    ("plugins", .list (.record Plugin.fields))]

/-- The fields of a command. -/
def Command.fields : Fields :=
  .ofList [("time", .scalar), ("topic", .scalar), ("value", .scalar)]

/-- The fields of a world. -/
def fields : Fields :=
  .ofList [("version", .scalar), ("name", .scalar), ("physics", .record Physics.fields),
    ("models", .list (.record Model.fields)), ("commands", .list (.record Command.fields))]

/-! ### Reading -/

section Reading

variable {α : Type} (d : Dialect α)

/-- The physics in a tree. -/
def Physics.ofTree? (t : Document.Tree α) : Option Physics := do
  let slot ← d.record? fields t
  return {
    inertia := ← (slot "inertia").default? d.floatOf? 1
    damping := ← (slot "damping").default? d.floatOf? 0 }

/-- The joint in a tree. -/
def Joint.ofTree? (t : Document.Tree α) : Option Joint := do
  let slot ← d.record? fields t
  return {
    name := ← (slot "name").required? d.textOf?
    initialVelocity := ← (slot "initial_velocity").default? (d.maybe? d.floatOf?) none }

/-- The name of a kind of plugins. -/
def PluginKind.name : PluginKind → String
  | .jointController => "joint_controller"

/-- The plugin in a tree. -/
def Plugin.ofTree? (t : Document.Tree α) : Option Plugin := do
  let slot ← d.record? fields t
  let kinds := [(PluginKind.jointController.name, PluginKind.jointController)]
  return {
    kind := ← (slot "type").required? (d.oneOf? kinds)
    params := ← (slot "params").default? (Params.ofTree? d) .empty }

/-- The model in a tree. -/
def Model.ofTree? (t : Document.Tree α) : Option Model := do
  let slot ← d.record? fields t
  return {
    name := ← (slot "name").required? d.textOf?
    joints := ← (slot "joints").default? (d.listOf? (Joint.ofTree? d)) []
    plugins := ← (slot "plugins").default? (d.listOf? (Plugin.ofTree? d)) [] }

/-- The command in a tree. -/
def Command.ofTree? (t : Document.Tree α) : Option Command := do
  let slot ← d.record? fields t
  return {
    time := ← (slot "time").required? d.floatOf?
    topic := ← (slot "topic").required? d.textOf?
    value := ← (slot "value").required? d.floatOf? }

/-- The world in a tree. -/
def ofTree? (t : Document.Tree α) : Option World := do
  let slot ← d.record? fields t
  return {
    version := ← (slot "version").required? d.naturalOf?
    name := ← (slot "name").required? d.textOf?
    physics := ← (slot "physics").default? (Physics.ofTree? d) {}
    models := ← (slot "models").default? (d.listOf? (Model.ofTree? d)) []
    commands := ← (slot "commands").default? (d.listOf? (Command.ofTree? d)) [] }

end Reading

/-! ### Writing -/

/-- Physics as a tree. -/
def Physics.toTree (p : Physics) : Document.Tree Scalar :=
  .record [("inertia", .float p.inertia), ("damping", .float p.damping)]

/-- A joint as a tree; an absent velocity is left out. -/
def Joint.toTree (j : Joint) : Document.Tree Scalar :=
  .record <| ("name", .text j.name) ::
    match j.initialVelocity with
    | none => []
    | some v => [("initial_velocity", .float v)]

/-- A plugin as a tree. -/
def Plugin.toTree (p : Plugin) : Document.Tree Scalar :=
  .record [("type", .text p.kind.name), ("params", Params.codec.write p.params)]

/-- A model as a tree. -/
def Model.toTree (m : Model) : Document.Tree Scalar :=
  .record [("name", .text m.name), ("joints", .list (m.joints.map Joint.toTree)),
    ("plugins", .list (m.plugins.map Plugin.toTree))]

/-- A command as a tree. -/
def Command.toTree (c : Command) : Document.Tree Scalar :=
  .record [("time", .float c.time), ("topic", .text c.topic), ("value", .float c.value)]

/-- A world as a tree. -/
def toTree (w : World) : Document.Tree Scalar :=
  .record [("version", .leaf (.int w.version.toNat)), ("name", .text w.name),
    ("physics", w.physics.toTree), ("models", .list (w.models.map Model.toTree)),
    ("commands", .list (w.commands.map Command.toTree))]

/-- The codec of worlds. -/
def codec : Codec World where
  shape := .record fields
  read? d := ofTree? d
  write := toTree

end Servo.World
