import Servo.Decimal.Shortest
import Servo.Proofs.Decimal.Magnitude
import Servo.Proofs.Decimal.Value

/-!
# Shortest decimals

`toFloat_shortest`: the shortest decimal of a finite number is read as that number without
its sign.
-/

namespace Servo.Decimal

/-- Zeros at the end are moved into the exponent without changing the value. -/
theorem value_trimZeros (d : Decimal) (fuel : Nat) :
  (d.trimZeros fuel).value = d.value
  := by
  induction fuel generalizing d with
  | zero => rfl
  | succ fuel ih =>
    rw [trimZeros]
    split
    next h =>
      have hdigits : (d.digits : ℚ) = 10 * (d.digits / 10 : Nat) := by
        exact_mod_cast (Nat.mul_div_cancel' (Nat.dvd_of_mod_eq_zero h.2)).symm
      rw [ih, value, value, hdigits, zpow_add_one₀ (by norm_num)]
      ring
    next => rfl

/-- The exact decimal of a number has its value. -/
theorem value_exact (m : Nat) (q : ℤ) :
  (exact m q).value = m * 2 ^ q
  := by
  rw [exact]
  split
  next hneg =>
    have hq : q = -(q.natAbs : ℤ) := by omega
    have hten : (10 : ℚ) ^ q.natAbs = 5 ^ q.natAbs * 2 ^ q.natAbs := by
      rw [← mul_pow]
      norm_num
    rw [value, hq, Int.natAbs_neg, Int.natAbs_natCast, zpow_neg, zpow_neg, zpow_natCast,
      zpow_natCast, hten]
    push_cast [Nat.pow_eq]
    field_simp
  next hpos =>
    have hq : q = (q.natAbs : ℤ) := by omega
    rw [value, hq, Int.natAbs_natCast, zpow_zero, mul_one, zpow_natCast]
    push_cast [Nat.pow_eq]
    rfl

/-- What is found on a grid is read as the number. -/
theorem toFloat_onGrid? {tie : Tie} {x : Float} {v : Fraction} {k : ℤ} {d : Decimal}
    (h : onGrid? tie x v k = some d) :
  d.toFloat = x
  := by
  unfold onGrid? at h
  simp only at h
  split at h
  next hnear =>
    cases h
    exact hnear
  next =>
    split at h
    next hfar =>
      cases h
      exact hfar
    next => cases h

/-- The shortest decimal of a number is read as the number without its sign. -/
theorem toFloat_shortest {tie : Tie} {x : Float} {m : Nat} {q : ℤ}
    (h : magnitude x = .finite m q) :
  (shortest tie x.abs m q).toFloat = x.abs
  := by
  rw [shortest]
  split
  next hzero =>
    rw [hzero] at h
    rcases eq_zero_of_magnitude h with rfl | rfl <;> decide +kernel
  next hm =>
    obtain ⟨hcanonical, hsize, hunpack⟩ := unpack_of_magnitude h hm
    simp only
    rw [toFloat_congr (value_trimZeros _ 800)]
    cases hfound : (List.range 17).findSome? fun (i : Nat) =>
        onGrid? tie x.abs (Fraction.ofBinary m q) (leadingExponent m q - i) with
    | none =>
      rw [Option.getD_none, abs_of_unpack hunpack]
      apply toFloat_of_canonical hcanonical hsize (value_exact m q)
    | some d =>
      obtain ⟨i, -, hi⟩ := List.exists_of_findSome?_eq_some hfound
      rw [Option.getD_some]
      apply toFloat_onGrid? hi

end Servo.Decimal
