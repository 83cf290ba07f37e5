import Servo.Yaml.Cursor

/-!
# YAML tokens

The tokens of a YAML document.  A block collection, whose extent is given by indentation,
has tokens for its start and its end like a flow collection between brackets.  A `Tag`
says of which type a node is.
-/

namespace Servo.Yaml

/-- How a scalar is written. -/
inductive Style where
  | plain
  | singleQuoted
  | doubleQuoted
  /-- A block whose lines are kept. -/
  | literal
  /-- A block whose lines are joined. -/
  | folded
  deriving DecidableEq, Repr

/-- A tag, or a part of one.  Escapes give its bytes one by one, so that they need not be
those of a text. -/
structure Tag where
  bytes : List UInt8
  deriving DecidableEq, Repr

namespace Tag

/-- The tag that is a text. -/
def ofString (s : String) : Tag := ⟨s.toList.flatMap String.utf8EncodeChar⟩

/-- A tag whose parts are given by a handle and a suffix. -/
def append (t u : Tag) : Tag := ⟨t.bytes ++ u.bytes⟩

/-- The mark with which the tags of a document's own start. -/
def mark : UInt8 := 0x21

/-- Whether a tag is one of the document's own. -/
def isOwn (t : Tag) : Bool := t.bytes.head? == some mark

/-- The name of a tag of the document's own: the text behind its mark, or the mark if it is
alone.  Other tags have none. -/
def name? (t : Tag) : Option String :=
  if !t.isOwn then none
  else
    match t.bytes.tail with
    | [] => some "!"
    | rest => String.fromUTF8? ⟨rest.toArray⟩

/-- The tag of a type that every document knows. -/
def ofType (name : String) : Tag := ofString ("tag:yaml.org,2002:" ++ name)

end Tag

/-- A token of a YAML document. -/
inductive Token where
  /-- The directive that gives the version. -/
  | version (major minor : Nat)
  /-- The directive that lets a handle of tags stand for the start of a tag. -/
  | handle (name : String) (target : Tag)
  | documentStart
  | documentEnd
  | blockListStart
  | blockMapStart
  | blockEnd
  | flowListStart
  | flowListEnd
  | flowMapStart
  | flowMapEnd
  /-- The dash in front of an item. -/
  | item
  /-- The comma between parts of a flow collection. -/
  | comma
  /-- The start of a key. -/
  | key
  /-- The start of a value. -/
  | value
  | alias (name : String)
  | anchor (name : String)
  | tag (handle : String) (suffix : Tag)
  | scalar (style : Style) (text : String)
  deriving DecidableEq, Repr

end Servo.Yaml
