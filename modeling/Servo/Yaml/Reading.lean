import Servo.Decimal.Reading
import Servo.Document.Dialect
import Servo.Yaml.Node

/-!
# Readings of YAML scalars

What the scalars of a YAML document stand for.  A plain scalar without a tag can be empty,
null, a truth value, an integer, a number or a text, in this order; a tag can demand one
of these.  `Graph.dialect` are these rules for the scalars of one document.
-/

namespace Servo.Yaml

open Document (Dialect)

namespace Reading

/-- The text stands for null. -/
def isNull (s : String) : Bool := s ∈ ["null", "Null", "NULL", "~"]

/-- The truth value for which a text stands. -/
def bool? (s : String) : Option Bool :=
  if s ∈ ["true", "True", "TRUE"] then some true
  else if s ∈ ["false", "False", "FALSE"] then some false
  else none

/-- The text consists of digits with a zero in front that is not needed, and so is not a
number. -/
def isPadded (s : String) : Bool :=
  let ds := (Decimal.splitSign s.toList).2
  1 < ds.length && ds.head? == some '0' && ds.all Char.isDigit

/-- The digits of a natural number in some base, and at least one. -/
def natural? (base : Nat) (ds : List Char) : Option Nat :=
  if ds.isEmpty then none
  else
    ds.foldlM (fun n c => do
      let d ← Quoted.hexValue? c
      if d < base then return base * n + d else none) 0

/-- The digits of a natural number behind the mark of a base. -/
def marked? : List Char → Option Nat
  | '0' :: 'x' :: ds => natural? 16 ds
  | '0' :: 'o' :: ds => natural? 8 ds
  | '0' :: 'b' :: ds => natural? 2 ds
  | _ => none

/-- The integer for which a text stands.  It has an optional sign and digits in base ten, or
in another base behind its mark. -/
def int? (s : String) : Option Int :=
  let (minus, ds) := Decimal.splitSign s.toList
  let magnitude := (marked? ds).or (if isPadded s then none else natural? 10 ds)
  magnitude.map fun n => if minus then -(n : Int) else n

/-- The natural number of 64 bits for which a text stands. -/
def word? (s : String) : Option Nat :=
  (int? s).bind fun n => if s.toList.head? ≠ some '-' ∧ n < UInt64.size then n.toNat? else none

/-- The number for which a text stands: a finite decimal, or a word for infinity or for what
is not a number. -/
def float? (s : String) : Option Float :=
  let unsigned : Option (List Char) :=
    match s.toList with
    | '+' :: '+' :: _ => none
    | '+' :: '-' :: _ => none
    | '+' :: rest => some rest
    | cs => some cs
  unsigned.bind fun cs =>
    let word := String.ofList cs
    if word ∈ [".inf", ".Inf", ".INF"] then some Decimal.infinity
    else if s ∈ ["-.inf", "-.Inf", "-.INF"] then some (-Decimal.infinity)
    else if s ∈ [".nan", ".NaN", ".NAN"] then some Decimal.nan
    else (Decimal.readFloat? word).filter Float.isFinite

/-- The value of an integer as a parameter: one of 63 bits is a number, and one that is
greater but not beyond 128 bits has no value. -/
def intValue? (n : Int) : Option Params.Value :=
  if Int64.minValue.toInt ≤ n ∧ n ≤ Int64.maxValue.toInt then some (.int (Int64.ofInt n))
  else if 0 ≤ n ∧ n < UInt64.size then some (.float (Float.ofInt n))
  else none

/-- The integer of at most 128 bits, signed or unsigned, for which a text stands. -/
def wideInt? (s : String) : Option Int :=
  (int? s).filter fun n =>
    -0x80000000000000000000000000000000 ≤ n && n < 0x100000000000000000000000000000000

/-- The value of a plain text as a parameter. -/
def plainValue? (s : String) : Option Params.Value :=
  if s = "" ∨ isNull s then none
  else if let some b := bool? s then some (.bool b)
  else if let some n := wideInt? s then intValue? n
  else if let some x := (if isPadded s then none else float? s) then some (.float x)
  else some (.text s)

end Reading

namespace Scalar

open Reading

/-- The text of a scalar. -/
def text? : Scalar → Option String
  | .content _ _ s => some s
  | .alias _ | .collection _ => none

/-- The text of a scalar where a type with a given tag is expected that is not a text. -/
def literal? (type : String) : Scalar → Option String
  | .content .plain _ s => some s
  | .content .literal tag s => if tag = some (Tag.ofType type) then some s else none
  | _ => none

/-- The number for which a scalar stands. -/
def float? (a : Scalar) : Option Float := (a.literal? "float").bind Reading.float?

/-- The natural number for which a scalar stands. -/
def natural? (a : Scalar) : Option Nat := (a.literal? "int").bind word?

/-- Whether a scalar stands for an absent value; none if it is neither. -/
def absent? : Scalar → Option Bool
  | .content .plain none s => some (s = "" ∨ isNull s)
  | .content .plain (some tag) s =>
    if tag = Tag.ofType "null" then (if isNull s then some true else none) else some false
  | _ => some false

/-- Whether a scalar is plain and has no characters. -/
def isEmpty : Scalar → Bool
  | .content .plain _ s => s = ""
  | _ => false

/-- The value of a scalar as a parameter.  A tag of the document's own gives it none, unless
the tag has no name: then a plain scalar is read as if it had no tag. -/
def value? : Scalar → Option Params.Value
  | .content style none s => if style = .plain then plainValue? s else some (.text s)
  | .content style (some tag) s =>
    if tag = Tag.ofType "bool" then (bool? s).map .bool
    else if tag = Tag.ofType "int" then (wideInt? s).bind intValue?
    else if tag = Tag.ofType "float" then (Reading.float? s).map .float
    else if tag = Tag.ofType "null" then none
    else if tag.name?.isSome then none
    else if tag.isOwn ∧ style = .plain then plainValue? s
    else some (.text s)
  | _ => none

/-- The word for which a scalar stands.  A tag of the document's own on an empty scalar is a
word, too. -/
def word? : Scalar → Option String
  | .content style tag s =>
    match tag.bind Tag.name? with
    | none => some s
    | some name => if style = .plain ∧ (s = "" ∨ isNull s) then some name else none
  | _ => none

end Scalar

/-- How the scalars of a document are read. -/
def Graph.dialect (g : Graph) : Dialect Scalar where
  target?
    | .alias number => g.anchors.node? number
    | _ => none
  text? := Scalar.text?
  float? := Scalar.float?
  natural? := Scalar.natural?
  absent? := Scalar.absent?
  isEmpty := Scalar.isEmpty
  value? := Scalar.value?
  word? := Scalar.word?
  positional := false
  keyedWords := false

end Servo.Yaml
