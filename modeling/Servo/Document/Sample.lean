import Servo.Document.Codec
import Servo.Simulation.Sample

/-!
# Documents of samples and messages

`Sample.codec` is the codec of samples, and `messageCodec` that of a message with a number
in it.
-/

namespace Servo

open Document

/-- The fields of a sample. -/
def Sample.fields : Fields :=
  .ofList [("t", .scalar), ("joint", .scalar), ("velocity", .scalar),
    ("velocity_cmd", .scalar), ("force_cmd", .scalar)]

/-- The codec of samples. -/
def Sample.codec : Codec Sample where
  shape := .record fields
  read? d t := do
    let slot ← d.record? fields t
    return {
      time := ← (slot "t").required? d.floatOf?
      joint := ← (slot "joint").required? d.textOf?
      velocity := ← (slot "velocity").maybe? d d.floatOf?
      velocityCommand := ← (slot "velocity_cmd").maybe? d d.floatOf?
      forceCommand := ← (slot "force_cmd").maybe? d d.floatOf? }
  write s :=
    .record [("t", .float s.time), ("joint", .text s.joint),
      ("velocity", .floatOrNull s.velocity), ("velocity_cmd", .floatOrNull s.velocityCommand),
      ("force_cmd", .floatOrNull s.forceCommand)]

/-- The fields of a message with a number in it. -/
def messageFields : Fields := .ofList [("data", .scalar)]

/-- The codec of messages with a number in them. -/
def messageCodec : Codec Float where
  shape := .record messageFields
  read? d t := do
    let slot ← d.record? messageFields t
    (slot "data").required? d.floatOf?
  write x := .record [("data", .float x)]

end Servo
