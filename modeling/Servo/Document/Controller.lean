import Servo.Controller.Config
import Servo.Document.Codec

/-!
# Documents of controllers

The codecs of what configures a controller: `Params.codec`, `Gains.codec`,
`Controller.Mode.codec` and `Controller.Config.codec`, and that of the state of a
regulator.
-/

namespace Servo

open Document

/-! ### Parameters -/

/-- The value of a parameter from a tree. -/
def Params.Value.ofTree? {α : Type} (d : Dialect α) (t : Document.Tree α) :
    Option Params.Value :=
  match d.resolve t with
  | .leaf a => d.value? a
  | _ => none

/-- The value of a parameter as a scalar. -/
def Params.Value.scalar : Params.Value → Scalar
  | .bool b => .bool b
  | .int n => .int n.toInt
  | .float x => .float x
  | .text s => .text s

/-- The codec of the value of a parameter. -/
def Params.Value.codec : Codec Params.Value where
  shape := .scalar
  read? d := ofTree? d
  write v := .leaf v.scalar

/-- Parameters from a tree.  Of equal keys the last one counts. -/
def Params.ofTree? {α : Type} (d : Dialect α) (t : Document.Tree α) : Option Params :=
  match d.resolve t with
  | .leaf a => if d.isEmpty a then some .empty else none
  | .list _ => none
  | .map members => do
    let members ← d.named? members
    let entries ← members.mapM fun m => (Params.Value.ofTree? d m.2).map (m.1, ·)
    return Dictionary.ofList entries

/-- The shape of parameters. -/
def Params.shape : Shape := .dictionary .scalar

/-- The codec of parameters. -/
def Params.codec : Codec Params where
  shape := shape
  read? d := ofTree? d
  write p := .record (p.entries.map fun e => (e.1, .leaf e.2.scalar))

/-! ### Regulators -/

/-- The fields of gains and limits. -/
def Gains.fields : Fields :=
  .ofList [("p_gain", .scalar), ("i_gain", .scalar), ("d_gain", .scalar), ("i_max", .scalar),
    ("i_min", .scalar), ("cmd_max", .scalar), ("cmd_min", .scalar), ("cmd_offset", .scalar)]

/-- Gains and limits from a tree. -/
def Gains.ofTree? {α : Type} (d : Dialect α) (t : Document.Tree α) : Option Gains := do
  let slot ← d.record? fields t
  return {
    proportional := ← (slot "p_gain").required? d.floatOf?
    integral := ← (slot "i_gain").required? d.floatOf?
    derivative := ← (slot "d_gain").required? d.floatOf?
    integralMax := ← (slot "i_max").required? d.floatOf?
    integralMin := ← (slot "i_min").required? d.floatOf?
    commandMax := ← (slot "cmd_max").required? d.floatOf?
    commandMin := ← (slot "cmd_min").required? d.floatOf?
    offset := ← (slot "cmd_offset").required? d.floatOf? }

/-- Gains and limits as a tree. -/
def Gains.toTree (g : Gains) : Document.Tree Scalar :=
  .record [("p_gain", .float g.proportional), ("i_gain", .float g.integral),
    ("d_gain", .float g.derivative), ("i_max", .float g.integralMax),
    ("i_min", .float g.integralMin), ("cmd_max", .float g.commandMax),
    ("cmd_min", .float g.commandMin), ("cmd_offset", .float g.offset)]

/-- The codec of gains and limits. -/
def Gains.codec : Codec Gains where
  shape := .record fields
  read? d := ofTree? d
  write := toTree

/-- The fields of the state of a regulator. -/
def Regulator.State.fields : Fields :=
  .ofList [("integral", .scalar), ("last_error", .scalar), ("error_rate", .scalar),
    ("output", .scalar)]

/-- The codec of the state of a regulator. -/
def Regulator.State.codec : Codec Regulator.State where
  shape := .record fields
  read? d t := do
    let slot ← d.record? fields t
    return {
      integral := ← (slot "integral").required? d.floatOf?
      lastError := ← (slot "last_error").required? d.floatOf?
      errorRate := ← (slot "error_rate").required? d.floatOf?
      output := ← (slot "output").required? d.floatOf? }
  write s :=
    .record [("integral", .float s.integral), ("last_error", .float s.lastError),
      ("error_rate", .float s.errorRate), ("output", .float s.output)]

/-! ### Configurations -/

namespace Controller

/-- A mode from a tree. -/
def Mode.ofTree? {α : Type} (d : Dialect α) : Document.Tree α → Option Mode :=
  d.oneOf? [(Mode.velocity.name, .velocity), (Mode.force.name, .force)]

/-- The codec of modes. -/
def Mode.codec : Codec Mode where
  shape := .scalar
  read? d := ofTree? d
  write m := .text m.name

/-- The fields of a configuration. -/
def Config.fields : Fields :=
  .ofList [("joint_name", .scalar), ("initial_velocity", .scalar), ("mode", .scalar),
    ("pid", .record Gains.fields), ("topic", .scalar)]

/-- The codec of configurations. -/
def Config.codec : Codec Config where
  shape := .record fields
  read? d t := do
    let slot ← d.record? fields t
    return {
      joint := ← (slot "joint_name").required? d.textOf?
      initialVelocity := ← (slot "initial_velocity").required? d.floatOf?
      mode := ← (slot "mode").required? (Mode.ofTree? d)
      gains := ← (slot "pid").required? (Gains.ofTree? d)
      topic := ← (slot "topic").maybe? d d.textOf? }
  write c :=
    .record [("joint_name", .text c.joint), ("initial_velocity", .float c.initialVelocity),
      ("mode", .text c.mode.name), ("pid", c.gains.toTree), ("topic", .textOrNull c.topic)]

end Controller

end Servo
