import Servo.Text.Blank
import Servo.Text.Quoted

/-!
# Topics

A `Topic` is the name under which messages are published.  `Topic.valid` says which
texts name a topic, and `Topic.ofString` reads one: `cmd` and `/cmd` name the same
topic, `/cmd`.
-/

namespace Servo

/-- The name of a topic; it starts with a slash. -/
structure Topic where
  name : String
  deriving DecidableEq, Repr, Inhabited

namespace Topic

/-- Why a text names no topic. -/
inductive Error where
  /-- The text breaks one of the rules of `Topic.valid`. -/
  | invalid (text : String)
  deriving DecidableEq, Repr

/-- The wording of an error. -/
def Error.message : Error → String
  | .invalid text => "Invalid topic name: " ++ Text.quote text

/-- Two slashes in a row. -/
def hasEmptySegment : List Char → Bool
  | [] => false
  | c :: rest => (c == '/' && rest.head? == some '/') || hasEmptySegment rest

/-- The text names a topic: it is neither empty nor a single slash, and it has no white
space, no `@` and no two slashes in a row. -/
def valid (text : String) : Bool :=
  let cs := text.toList
  !cs.isEmpty && cs != ['/'] && !cs.any Text.isBlank && !cs.contains '@' && !hasEmptySegment cs

/-- The text with a slash in front, unless it has one. -/
def rooted (text : String) : String :=
  if text.toList.head? = some '/' then text else "/" ++ text

/-- The topic that a text names. -/
def ofString (text : String) : Except Error Topic :=
  if valid text then .ok ⟨rooted text⟩ else .error (.invalid text)

end Topic

end Servo
