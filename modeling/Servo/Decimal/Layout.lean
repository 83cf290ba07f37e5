import Servo.Decimal.Shortest

/-!
# Layouts of numbers

A `Layout` fixes how a binary64 number is written: which numbers are written without an
exponent, how a whole number looks, the mark of the exponent and the words for the
special values.  `Layout.write` writes a number in a layout, always with the fewest
digits that are read as that number.
-/

namespace Servo

/-- The decisions of one way of writing binary64 numbers. -/
structure Layout where
  /-- Whether a number with this exponent of its leading digit is written without an exponent. -/
  plain : Int → Bool
  /-- Whether a whole number without an exponent ends in `.0`. -/
  pointZero : Bool
  /-- Whether a positive exponent has a plus sign. -/
  plusSign : Bool
  tie : Tie
  nan : String
  infinite : String

namespace Layout

/-- The decimal `c · 10 ^ k` with the point inside, behind or before its digits. -/
def writePlain (l : Layout) (d : Decimal) : String :=
  let digits := Nat.toDigits 10 d.digits
  let tail := if l.pointZero then ".0" else ""
  if 0 ≤ d.exponent then
    String.ofList (digits ++ List.replicate d.exponent.natAbs '0') ++ tail
  else
    let places := d.exponent.natAbs
    if places < digits.length then
      let whole := digits.length - places
      String.ofList (digits.take whole ++ '.' :: digits.drop whole)
    else
      "0." ++ String.ofList (List.replicate (places - digits.length) '0' ++ digits)

/-- The decimal with one digit before the point and an exponent. -/
def writeScientific (l : Layout) (d : Decimal) (exponent : Int) : String :=
  let mantissa :=
    match Nat.toDigits 10 d.digits with
    | [] => ""
    | [c] => String.singleton c
    | c :: rest => String.ofList (c :: '.' :: rest)
  let sign := if exponent < 0 then "-" else if l.plusSign then "+" else ""
  mantissa ++ "e" ++ sign ++ toString exponent.natAbs

/-- A finite number without its sign, given its shortest decimal. -/
def writeDecimal (l : Layout) (d : Decimal) : String :=
  let exponent := d.exponent + Decimal.digitCount d.digits - 1
  if d.digits = 0 ∨ l.plain exponent then l.writePlain d else l.writeScientific d exponent

/-- A number in a layout. -/
def write (l : Layout) (x : Float) : String :=
  let sign := if negative x then "-" else ""
  match magnitude x with
  | .nan => l.nan
  | .infinite => sign ++ l.infinite
  | .finite m q => sign ++ l.writeDecimal (Decimal.shortest l.tie x.abs m q)

/-- Messages and tables: never an exponent, and a whole number without a point. -/
def message : Layout where
  plain _ := true
  pointZero := false
  plusSign := false
  tie := .up
  nan := "NaN"
  infinite := "inf"

/-- Descriptions of values: a whole number shows `.0`, and far from one there is an exponent. -/
def description : Layout where
  plain e := -4 ≤ e && e ≤ 15
  pointZero := true
  plusSign := false
  tie := .up
  nan := "NaN"
  infinite := "inf"

/-- JSON documents, which have no word for the special values but `null`. -/
def json : Layout where
  plain e := -5 ≤ e && e ≤ 15
  pointZero := true
  plusSign := true
  tie := .even
  nan := "null"
  infinite := "null"

/-- YAML documents. -/
def yaml : Layout where
  plain e := -5 ≤ e && e ≤ 15
  pointZero := true
  plusSign := false
  tie := .even
  nan := ".nan"
  infinite := ".inf"

end Layout

end Servo
