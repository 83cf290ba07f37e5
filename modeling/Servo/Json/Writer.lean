import Servo.Decimal.Layout
import Servo.Document.Tree

/-!
# Writing JSON

`Json.write` writes a tree on one line, and `Json.writeIndented` with a line for every item
and member.
-/

namespace Servo.Json

open Document

/-- How one character is written in a string. -/
def escape (c : Char) : List Char :=
  if c = '"' then ['\\', '"']
  else if c = '\\' then ['\\', '\\']
  else if c = '\x08' then ['\\', 'b']
  else if c = '\x0c' then ['\\', 'f']
  else if c = '\n' then ['\\', 'n']
  else if c = '\r' then ['\\', 'r']
  else if c = '\t' then ['\\', 't']
  else if c.toNat < 0x20 then
    '\\' :: 'u' :: '0' :: '0' :: Nat.digitChar (c.toNat / 16) :: [Nat.digitChar (c.toNat % 16)]
  else [c]

/-- A string. -/
def writeText (s : String) : String :=
  String.ofList ('"' :: (s.toList.flatMap escape ++ ['"']))

/-- A number; one that is not finite is null. -/
def writeFloat (x : Float) : String := if x.isFinite then Layout.json.write x else "null"

/-- A scalar. -/
def writeScalar : Scalar → String
  | .null => "null"
  | .bool b => if b then "true" else "false"
  | .int n => toString n
  | .float x => writeFloat x
  | .text s => writeText s

/-- The key of a member; every key is written as a string. -/
def writeKey : Scalar → String
  | .text s => writeText s
  | a => writeText (writeScalar a)

mutual

/-- A tree on one line. -/
def write : Document.Tree Scalar → String
  | .leaf a => writeScalar a
  | .list ts => "[" ++ ",".intercalate (writeItems ts) ++ "]"
  | .map ms => "\x7b" ++ ",".intercalate (writeMembers ms) ++ "\x7d"

/-- The items of a list, each on one line. -/
def writeItems : List (Document.Tree Scalar) → List String
  | [] => []
  | t :: ts => write t :: writeItems ts

/-- The members of a map, each on one line. -/
def writeMembers : List (Scalar × Document.Tree Scalar) → List String
  | [] => []
  | (k, t) :: ms => (writeKey k ++ ":" ++ write t) :: writeMembers ms

end

/-- A new line that is indented to some depth. -/
def newLine (depth : Nat) : String := String.ofList ('\n' :: List.replicate (2 * depth) ' ')

/-- Parts between brackets, with a line for each part. -/
def bracketed (left right : String) (depth : Nat) (parts : List String) : String :=
  if parts.isEmpty then left ++ right
  else
    let inner := newLine (depth + 1)
    left ++ inner ++ ("," ++ inner).intercalate parts ++ newLine depth ++ right

mutual

/-- A tree at some depth, with a line for every item and member. -/
def writeAt (depth : Nat) : Document.Tree Scalar → String
  | .leaf a => writeScalar a
  | .list ts => bracketed "[" "]" depth (writeItemsAt (depth + 1) ts)
  | .map ms => bracketed "\x7b" "\x7d" depth (writeMembersAt (depth + 1) ms)

/-- The items of a list at some depth. -/
def writeItemsAt (depth : Nat) : List (Document.Tree Scalar) → List String
  | [] => []
  | t :: ts => writeAt depth t :: writeItemsAt depth ts

/-- The members of a map at some depth. -/
def writeMembersAt (depth : Nat) : List (Scalar × Document.Tree Scalar) → List String
  | [] => []
  | (k, t) :: ms => (writeKey k ++ ": " ++ writeAt depth t) :: writeMembersAt depth ms

end

/-- A tree with a line for every item and member. -/
def writeIndented (t : Document.Tree Scalar) : String := writeAt 0 t

end Servo.Json
