/-!
# Decimals

A `Decimal` is a natural number scaled by a power of ten.  `Decimal.toFloat` is the
binary64 number nearest to it, `Float.magnitude` is the exact value of a binary64
number, and `Float.leadingExponent` is the place of the leading digit of such a value.
-/

namespace Servo

/-- The number `digits · 10 ^ exponent`. -/
structure Decimal where
  digits : Nat
  exponent : Int
  deriving DecidableEq, Repr

namespace Decimal

/-- The number of decimal digits of `n`. -/
def digitCount (n : Nat) : Nat := (Nat.toDigits 10 n).length

/-- The positive infinity. -/
def infinity : Float := Float.ofBits 0x7FF0000000000000

/-- Not a number. -/
def nan : Float := Float.ofBits 0x7FF8000000000000

/-- The binary64 number nearest to a decimal.  Above `10 ^ 400` that is infinity and below
`10 ^ (-400)` it is zero, so that powers of ten beyond these are never computed. -/
def toFloat (d : Decimal) : Float :=
  if d.digits = 0 then 0
  else
    let size := digitCount d.digits + d.exponent
    if 400 < size then infinity
    else if size < -400 then 0
    else if d.exponent < 0 then Float.ofScientific d.digits true d.exponent.natAbs
    else Float.ofScientific d.digits false d.exponent.natAbs

/-- Moves trailing zeros from the digits into the exponent; `fuel` bounds their number. -/
def trimZeros (d : Decimal) : (fuel : Nat) → Decimal
  | 0 => d
  | fuel + 1 =>
    if d.digits ≠ 0 ∧ d.digits % 10 = 0 then trimZeros ⟨d.digits / 10, d.exponent + 1⟩ fuel
    else d

end Decimal

/-- What a binary64 number stands for, its sign apart. -/
inductive Magnitude where
  | nan
  | infinite
  /-- The number `m · 2 ^ q`. -/
  | finite (m : Nat) (q : Int)
  deriving DecidableEq, Repr

/-- The sign bit; a zero has one too. -/
def negative (x : Float) : Bool := 0x8000000000000000 ≤ x.toBits

/-- The leading bit of the fraction of a normal number, which its encoding leaves out; it is
the fifty-second power of two. -/
def hiddenBit : Nat := 0x10000000000000

/-- The value of a binary64 number without its sign. -/
def magnitude (x : Float) : Magnitude :=
  let bits := x.toBits.toNat
  let fraction : Nat := bits % hiddenBit
  let exponent : Nat := bits / hiddenBit % 2048
  if exponent = 2047 then (if fraction = 0 then .infinite else .nan)
  else if exponent = 0 then .finite fraction (-1074)
  else .finite (hiddenBit + fraction) ((exponent : Int) - 1075)

/-- The positive fraction `num / den` as a quotient of natural numbers. -/
structure Fraction where
  num : Nat
  den : Nat

namespace Fraction

/-- The number `m · 2 ^ q`. -/
def ofBinary (m : Nat) (q : Int) : Fraction :=
  if q < 0 then ⟨m, Nat.pow 2 q.natAbs⟩ else ⟨m * Nat.pow 2 q.natAbs, 1⟩

/-- A fraction divided by `10 ^ k`. -/
def scale (v : Fraction) (k : Int) : Fraction :=
  if k < 0 then ⟨v.num * Nat.pow 10 k.natAbs, v.den⟩
  else ⟨v.num, v.den * Nat.pow 10 k.natAbs⟩

/-- The integer part. -/
def floor (v : Fraction) : Nat := v.num / v.den

/-- How the fraction lies to the middle between its integer part and the next integer. -/
def compareHalf (v : Fraction) : Ordering := compare (2 * (v.num % v.den)) v.den

end Fraction

/-- The exponent of the leading decimal digit of `m · 2 ^ q`, for `0 < m`.  With
`2 ^ l ≤ m · 2 ^ q < 2 ^ (l + 1)` it is the integer part of `l · log₁₀ 2` or one more,
and the factor is rounded so that the estimate errs downward. -/
def leadingExponent (m : Nat) (q : Int) : Int :=
  let l := (m.log2 : Int) + q
  let low := l * (if 0 ≤ l then 30102 else 30104) / 100000
  if ((Fraction.ofBinary m q).scale (low + 1)).floor = 0 then low else low + 1

end Servo
