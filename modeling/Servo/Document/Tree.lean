/-!
# Document trees

A `Tree α` is a document without its notation: lists and maps of trees over scalars of
type `α`.  A `Scalar` is what a document that is written has at its leaves.
-/

namespace Servo.Document

/-- A document with scalars of some type. -/
inductive Tree (α : Type) where
  | leaf (a : α)
  | list (items : List (Tree α))
  /-- Keys with their values, in the order of the document. -/
  | map (members : List (α × Tree α))

/-- A scalar of a document. -/
inductive Scalar where
  | null
  | bool (b : Bool)
  | int (n : Int)
  | float (x : Float)
  | text (s : String)
  deriving DecidableEq

namespace Tree

/-- A map whose keys are texts. -/
def record (members : List (String × Tree Scalar)) : Tree Scalar :=
  .map (members.map fun m => (.text m.1, m.2))

/-- A text. -/
def text (s : String) : Tree Scalar := .leaf (.text s)

/-- A number. -/
def float (x : Float) : Tree Scalar := .leaf (.float x)

/-- A number that may be missing. -/
def floatOrNull : Option Float → Tree Scalar
  | none => .leaf .null
  | some x => float x

/-- A text that may be missing. -/
def textOrNull : Option String → Tree Scalar
  | none => .leaf .null
  | some s => text s

end Tree

end Servo.Document
