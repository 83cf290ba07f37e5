import Servo.Document.Format
import Servo.Document.World
import Servo.World.Validity

/-!
# Files of worlds

`World.load` reads a world from the content of a file and checks it, and `World.save` is
the content of the file of a world, which must be valid.
-/

namespace Servo.World

open Document

/-- Why a world cannot be loaded. -/
inductive LoadError where
  /-- The file cannot be read, or is not UTF-8. -/
  | file
  /-- The content is no document of a world in its format. -/
  | malformed (f : Format)
  | invalid (f : Fault)
  deriving DecidableEq

/-- The wording of an error. -/
def LoadError.message : LoadError → String
  | .file => "I/O error"
  | .malformed .json => "JSON error"
  | .malformed .yaml => "YAML error"
  | .invalid f => "Validation error: " ++ f.message

/-- The world in a document, which may be invalid. -/
def read (f : Format) (text : String) : Except LoadError World :=
  match codec.parse? f text with
  | some w => .ok w
  | none => .error (.malformed f)

/-- The world, if it is valid. -/
def check (w : World) : Except Fault World :=
  match w.fault? with
  | none => .ok w
  | some f => .error f

/-- The valid world in a document. -/
def parse (f : Format) (text : String) : Except LoadError World := do
  let w ← read f text
  w.check.mapError .invalid

/-- The valid world in a file, given its content. -/
def load (f : Format) (content : Option ByteArray) : Except LoadError World :=
  match content.bind String.fromUTF8? with
  | none => .error .file
  | some text => parse f text

/-- The content of the file of a valid world. -/
def save (f : Format) (w : World) : Except Fault String :=
  w.check.map fun w => f.print w.toTree

end Servo.World
