import Servo.Document.Codec
import Servo.Json.Reader
import Servo.Json.Writer
import Servo.Yaml.Reading
import Servo.Yaml.Writer

/-!
# Formats of documents

`Codec.parse?` reads a value from the text of a document in some format, and `Codec.print`
writes one.
-/

namespace Servo.Document

/-- A notation for documents. -/
inductive Format where
  | json
  | yaml
  deriving DecidableEq, Repr

/-- A tree as a text for readers of any kind: JSON documents have a line for every value. -/
def Format.print : Format → Tree Scalar → String
  | .json, t => Json.writeIndented t
  | .yaml, t => Yaml.write t

namespace Codec

variable {β : Type} (c : Codec β)

/-- The value of a JSON document. -/
def ofJson? (text : String) : Option β := (Json.read? text).bind (c.read? Json.dialect)

/-- The value of a YAML document.  It does not follow too many aliases. -/
def ofYaml? (text : String) : Option β := do
  let g ← Yaml.Graph.ofChars? text.toList
  let _ ← g.dialect.spend? c.shape g.allowance g.root
  c.read? g.dialect g.root

/-- The value of a document. -/
def parse? : Format → String → Option β
  | .json, text => c.ofJson? text
  | .yaml, text => c.ofYaml? text

end Codec

end Servo.Document
