import Servo.Decimal.Basic

/-!
# Reading numbers

`Decimal.ofChars?` reads digits with an optional point and exponent, and
`Decimal.readFloat?` reads a signed number, infinity or NaN from a whole text.  Nothing
may stand before or behind the number.
-/

namespace Servo

namespace Decimal

/-- The value of a digit. -/
def digitValue (c : Char) : Nat := c.toNat - '0'.toNat

/-- The number that a list of digits denotes. -/
def natOfDigits (ds : List Char) : Nat := ds.foldl (fun n c => 10 * n + digitValue c) 0

/-- Splits an optional sign off; the flag is set by a minus. -/
def splitSign : List Char → Bool × List Char
  | '-' :: rest => (true, rest)
  | '+' :: rest => (false, rest)
  | cs => (false, cs)

/-- An exponent behind its mark: an optional sign and at least one digit. -/
def exponentOfChars? (cs : List Char) : Option Int :=
  let (minus, ds) := splitSign cs
  if ds.isEmpty ∨ ¬ ds.all Char.isDigit then none
  else some (if minus then -(natOfDigits ds : Int) else natOfDigits ds)

/-- Digits with an optional point among, before or behind them, and an optional exponent.
There is at least one digit outside the exponent. -/
def ofChars? (cs : List Char) : Option Decimal :=
  let whole := cs.takeWhile Char.isDigit
  let rest := cs.dropWhile Char.isDigit
  let (places, rest) :=
    match rest with
    | '.' :: tail => (tail.takeWhile Char.isDigit, tail.dropWhile Char.isDigit)
    | _ => ([], rest)
  let digits := whole ++ places
  if digits.isEmpty then none
  else
    let exponent? :=
      match rest with
      | [] => some 0
      | mark :: tail => if mark = 'e' ∨ mark = 'E' then exponentOfChars? tail else none
    exponent?.map fun e => ⟨natOfDigits digits, e - places.length⟩

/-- An unsigned number: a decimal, or a word for infinity or NaN in any letter case. -/
def unsignedOfChars? (cs : List Char) : Option Float :=
  let word := String.ofList (cs.map Char.toLower)
  if word = "inf" ∨ word = "infinity" then some infinity
  else if word = "nan" then some nan
  else (ofChars? cs).map toFloat

/-- The number that a whole text denotes. -/
def readFloat? (text : String) : Option Float :=
  let (minus, cs) := splitSign text.toList
  (unsignedOfChars? cs).map fun x => if minus then -x else x

end Decimal

end Servo
