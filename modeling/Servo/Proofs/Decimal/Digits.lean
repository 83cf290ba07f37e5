import Mathlib.Data.List.Basic
import Servo.Decimal.Reading

/-!
# Digits of integers

An integer is written as its digits in base ten behind a minus if it is negative.  Its
digits are read as its magnitude, and there is no zero in front of them.
-/

namespace Servo.Decimal

theorem isDigit_of_mem_toDigits {n : Nat} {c : Char} (hc : c ∈ Nat.toDigits 10 n) :
  c.isDigit = true
  := Nat.isDigit_of_mem_toDigits (by omega) (by omega) hc

theorem all_toDigits (n : Nat) :
  ∀ c ∈ Nat.toDigits 10 n, c.isDigit = true
  := fun _ => isDigit_of_mem_toDigits

theorem all_zeros (k : Nat) :
  ∀ c ∈ List.replicate k '0', c.isDigit = true
  := by
  intro c hc
  rw [List.eq_of_mem_replicate hc]
  rfl

theorem natOfDigits_toDigits (n : Nat) :
  natOfDigits (Nat.toDigits 10 n) = n
  := Nat.ofDigitChars_ten_toDigits

/-- Only zero starts with a zero. -/
theorem eq_zero_of_head?_toDigits {n : Nat} (h : (Nat.toDigits 10 n).head? = some '0') :
  n = 0
  := by
  induction n using Nat.strongRecOn with
  | ind n ih =>
    rw [Nat.toDigits_eq_if (by omega)] at h
    split at h
    · apply Nat.digitChar_eq_zero.1
      simpa using h
    next hn =>
      rw [List.head?_append_of_ne_nil _ Nat.toDigits_ne_nil] at h
      have hzero := ih (n / 10) (by omega) h
      omega

/-- An integer is written as a sign and the digits of its magnitude. -/
theorem toList_toString (n : Int) :
  (toString n).toList = (if n < 0 then ['-'] else []) ++ Nat.toDigits 10 n.natAbs
  := by
  rw [Int.toString_eq_repr]
  cases n with
  | ofNat n =>
    have hn : ¬ Int.ofNat n < 0 := Int.not_lt.2 (Int.natCast_nonneg n)
    rw [if_neg hn, List.nil_append, Int.repr, Nat.repr_eq_ofList_toDigits, String.toList_ofList]
    rfl
  | negSucc n =>
    rw [if_pos (Int.negSucc_lt_zero n), Int.repr]
    simp only [String.toList_append, Nat.repr_eq_ofList_toDigits, String.toList_ofList]
    rfl

/-- There is no sign in front of a digit. -/
theorem splitSign_of_isDigit {c : Char} (hc : c.isDigit = true) (cs : List Char) :
  splitSign (c :: cs) = (false, c :: cs)
  := by
  unfold splitSign
  split
  next heq =>
    cases heq
    cases hc
  next heq =>
    cases heq
    cases hc
  next => rfl

/-- The sign of a written integer is split off its digits. -/
theorem splitSign_toString (n : Int) :
  splitSign (toString n).toList = (decide (n < 0), Nat.toDigits 10 n.natAbs)
  := by
  rw [toList_toString]
  by_cases hn : n < 0
  · rw [if_pos hn, decide_eq_true hn]
    rfl
  · rw [if_neg hn, decide_eq_false hn, List.nil_append]
    cases hdigits : Nat.toDigits 10 n.natAbs with
    | nil => rfl
    | cons c cs =>
      have hc : c ∈ Nat.toDigits 10 n.natAbs := by
        rw [hdigits]
        apply List.mem_cons_self
      apply splitSign_of_isDigit (isDigit_of_mem_toDigits hc)

theorem length_toDigits_of_head? {n : Nat} (h : (Nat.toDigits 10 n).head? = some '0') :
  (Nat.toDigits 10 n).length = 1
  := by
  rw [eq_zero_of_head?_toDigits h]
  rfl

end Servo.Decimal
