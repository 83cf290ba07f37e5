import Servo.Document.Tree
import Servo.Params

/-!
# Dialects

A `Dialect` says what the scalars of one notation can be read as, and which of the
liberties of that notation a document may take.  `Scalar.dialect` is the plainest one.
-/

namespace Servo.Document

/-- How the scalars of a notation are read. -/
structure Dialect (α : Type) where
  /-- The tree for which a scalar stands, if it is a reference. -/
  target? : α → Option (Tree α)
  /-- A scalar where a text is expected. -/
  text? : α → Option String
  /-- A scalar where a number is expected. -/
  float? : α → Option Float
  /-- A scalar where a natural number is expected. -/
  natural? : α → Option Nat
  /-- Whether a scalar stands for an absent value where one may be absent; none if it is
  neither. -/
  absent? : α → Option Bool
  /-- Whether a scalar stands for an empty list or map. -/
  isEmpty : α → Bool
  /-- A scalar as the value of a parameter. -/
  value? : α → Option Params.Value
  /-- A scalar where one of several words is expected. -/
  word? : α → Option String
  /-- Whether a record may be a list of its values. -/
  positional : Bool
  /-- Whether a word may be the key of a map, with an absent value. -/
  keyedWords : Bool

namespace Scalar

/-- The number of an integer or a number. -/
def float? : Scalar → Option Float
  | .float x => some x
  | .int n => some (Float.ofInt n)
  | _ => none

/-- The value of a parameter: an integer beyond 64 bits is a number. -/
def value? : Scalar → Option Params.Value
  | .bool b => some (.bool b)
  | .int n =>
    if Int64.minValue.toInt ≤ n ∧ n ≤ Int64.maxValue.toInt then some (.int (Int64.ofInt n))
    else some (.float (Float.ofInt n))
  | .float x => some (.float x)
  | .text s => some (.text s)
  | .null => none

/-- The natural number of an integer. -/
def natural? : Scalar → Option Nat
  | .int n => n.toNat?
  | _ => none

/-- The text of a text. -/
def text? : Scalar → Option String
  | .text s => some s
  | _ => none

/-- The dialect in which every scalar is what it is. -/
def dialect : Dialect Scalar where
  target? _ := none
  text? := text?
  float? := float?
  natural? := natural?
  absent? a := some (a = .null)
  isEmpty _ := false
  value? := value?
  word? := text?
  positional := false
  keyedWords := false

end Scalar

end Servo.Document
