import Servo.Decimal.Basic

/-!
# Shortest decimals

`Decimal.shortest` selects, among the decimals that are read as a given binary64 number,
one with the fewest digits and, of those, the one nearest to the number; `Tie` says
which of two equally near ones is taken.
-/

namespace Servo

/-- The choice between two equally near decimals. -/
inductive Tie where
  /-- The one whose last digit is even. -/
  | even
  /-- The greater one. -/
  | up
  deriving DecidableEq, Repr

namespace Decimal

/-- Of the neighbours `c` and `c + 1` of `v`, the nearer one comes first. -/
def nearerFirst (tie : Tie) (v : Fraction) : Nat × Nat :=
  let c := v.floor
  match v.compareHalf, tie with
  | .lt, _ => (c, c + 1)
  | .gt, _ => (c + 1, c)
  | .eq, .up => (c + 1, c)
  | .eq, .even => if c % 2 = 0 then (c, c + 1) else (c + 1, c)

/-- The neighbour of `v` on the grid of multiples of `10 ^ k` that is read as `x`, if any. -/
def onGrid? (tie : Tie) (x : Float) (v : Fraction) (k : Int) : Option Decimal :=
  let (near, far) := nearerFirst tie (v.scale k)
  if Decimal.toFloat ⟨near, k⟩ = x then some ⟨near, k⟩
  else if Decimal.toFloat ⟨far, k⟩ = x then some ⟨far, k⟩
  else none

/-- The exact value of `m · 2 ^ q`. -/
def exact (m : Nat) (q : Int) : Decimal :=
  if q < 0 then ⟨m * Nat.pow 5 q.natAbs, q⟩ else ⟨m * Nat.pow 2 q.natAbs, 0⟩

/-- The shortest decimal that is read as `x`, where `x` is the positive number `m · 2 ^ q`.
The grids of one to seventeen digits are tried in turn, from the place of the leading
digit downward. -/
def shortest (tie : Tie) (x : Float) (m : Nat) (q : Int) : Decimal :=
  if m = 0 then ⟨0, 0⟩
  else
    let top := leadingExponent m q
    let v := Fraction.ofBinary m q
    let found := (List.range 17).findSome? fun (i : Nat) => onGrid? tie x v (top - i)
    (found.getD (exact m q)).trimZeros 800

end Decimal

end Servo
