import Servo.Decimal.Basic
import Servo.Proofs.Binary64.Rounding

/-!
# Values of decimals

The binary64 number nearest to a decimal is known by the value of the decimal alone, in
whichever way it is written (`toFloat_congr`), and a decimal with the value of a canonical
number is that number (`toFloat_of_canonical`).
-/

namespace Servo.Decimal

open Binary64 Float.Model Float.Model.UnpackedFloat

/-! ### Values and sizes -/

/-- The number for which a decimal stands. -/
def value (d : Decimal) : ℚ := d.digits * 10 ^ d.exponent

/-- The place of the leading digit of a decimal. -/
def size (d : Decimal) : ℤ := digitCount d.digits + d.exponent

/-- A positive number has as many digits as its powers of ten say. -/
theorem digitCount_bounds {n : Nat} (hn : 0 < n) :
  10 ^ (digitCount n - 1) ≤ n ∧ n < 10 ^ digitCount n
  := by
  have hpos : 0 < digitCount n := List.length_pos_of_ne_nil Nat.toDigits_ne_nil
  constructor
  · by_cases hone : digitCount n = 1
    · rw [hone]
      apply hn
    · apply Nat.le_of_not_lt
      intro hlt
      have hle := (Nat.length_toDigits_le_iff (by decide) (by omega)).2 hlt
      rw [← digitCount] at hle
      omega
  · apply (Nat.length_toDigits_le_iff (by decide) hpos).1 (Nat.le_refl _)

/-- The number of digits is at most that of bits. -/
theorem digitCount_le (n : Nat) :
  digitCount n ≤ n.log2 + 1
  := by
  rcases Nat.eq_zero_or_pos n with rfl | hn
  · decide
  · have hlow := (digitCount_bounds hn).1
    have hpow : 2 ^ (digitCount n - 1) ≤ 10 ^ (digitCount n - 1) :=
      Nat.pow_le_pow_left (by decide) _
    have hlog := (Nat.le_log2 (Nat.ne_of_gt hn)).2 (Nat.le_trans hpow hlow)
    omega

theorem value_eq_zero_iff {d : Decimal} :
  d.value = 0 ↔ d.digits = 0
  := by
  have hpos : (10 : ℚ) ^ d.exponent ≠ 0 := ne_of_gt (zpow_pos (by norm_num) _)
  rw [value, mul_eq_zero_iff_right hpos, Nat.cast_eq_zero]

/-- The size of a decimal says between which powers of ten its value is. -/
theorem value_bounds {d : Decimal} (hd : d.digits ≠ 0) :
  10 ^ (d.size - 1) ≤ d.value ∧ d.value < 10 ^ d.size
  := by
  have hpos : (0 : ℚ) < 10 ^ d.exponent := zpow_pos (by norm_num) _
  have hcount : 0 < digitCount d.digits := List.length_pos_of_ne_nil Nat.toDigits_ne_nil
  obtain ⟨hlow, hhigh⟩ := digitCount_bounds (Nat.pos_of_ne_zero hd)
  have hbelow : d.size - 1 = (digitCount d.digits - 1 : Nat) + d.exponent := by
    rw [size]
    omega
  rw [hbelow, size, value, zpow_add₀ (by norm_num), zpow_add₀ (by norm_num), zpow_natCast,
    zpow_natCast]
  constructor
  · apply mul_le_mul_of_nonneg_right _ (le_of_lt hpos)
    exact_mod_cast hlow
  · apply mul_lt_mul_of_pos_right _ hpos
    exact_mod_cast hhigh

/-- A decimal between two powers of ten has its size between theirs. -/
theorem size_bounds {d : Decimal} (hd : d.digits ≠ 0) {a b : ℤ} (hlow : 10 ^ a ≤ d.value)
    (hhigh : d.value < 10 ^ b) :
  a < d.size ∧ d.size ≤ b
  := by
  obtain ⟨hge, hlt⟩ := value_bounds hd
  have hten : (1 : ℚ) < 10 := by norm_num
  have ha := (zpow_lt_zpow_iff_right₀ hten).1 (lt_of_le_of_lt hlow hlt)
  have hb := (zpow_lt_zpow_iff_right₀ hten).1 (lt_of_le_of_lt hge hhigh)
  constructor <;> omega

/-- Decimals of one value have one size. -/
theorem size_congr {d d' : Decimal} (hd : d.digits ≠ 0) (h : d.value = d'.value) :
  d.size = d'.size
  := by
  have hd' : d'.digits ≠ 0 := by
    rw [Ne, ← value_eq_zero_iff, ← h, value_eq_zero_iff]
    apply hd
  obtain ⟨hge, hlt⟩ := value_bounds hd
  rw [h] at hge hlt
  have hbounds := size_bounds hd' hge hlt
  omega

/-! ### Numbers that are exact -/

/-- A natural number is unpacked to all bits of a mantissa. -/
def IsExactly (u : UnpackedFloat) (n : Nat) : Prop :=
  ∃ p e hp, u = .finite .positive p e hp ∧ 2 ^ 52 ≤ p ∧ (p * 2 ^ e : ℚ) = n

/-- Natural numbers below the fifty-third power of two are exact. -/
theorem isExactly_toFloat {n : Nat} (hn : 0 < n) (hlt : n < 2 ^ 53) :
  IsExactly n.toUInt64.toFloat.toModel.unpack n
  := by
  have hlog : n.log2 < 53 := (Nat.log2_lt (Nat.ne_of_gt hn)).2 hlt
  obtain ⟨k, hk⟩ : ∃ k, k = 52 - n.log2 := ⟨_, rfl⟩
  have hlow : 2 ^ 52 ≤ n * 2 ^ k := by
    have hself := Nat.mul_le_mul_right (2 ^ k) (Nat.log2_self_le (Nat.ne_of_gt hn))
    rwa [← Nat.pow_add, show n.log2 + k = 52 by omega] at hself
  have hhigh : n * 2 ^ k < 2 ^ 53 := by
    have hself := Nat.mul_lt_mul_of_pos_right (Nat.lt_log2_self (n := n)) (Nat.two_pow_pos k)
    rwa [← Nat.pow_add, show n.log2 + 1 + k = 53 by omega] at hself
  have hcanonical : Canonical (n * 2 ^ k) (-k) := by
    constructor
    case pos => omega
    case lt => exact hhigh
    case least => omega
    case full => exact .inl hlow
  have hnat : n.toUInt64.toNat = n := Nat.mod_eq_of_lt (by omega)
  have htarget : (0 - max ((n.log2 : ℤ) + 1 + 0 - 53) (-1074)).toNat = k := by omega
  have hround : UnpackedFloat.ofUInt64 Format.binary64 n.toUInt64
      = .finite .positive (n * 2 ^ k) (-k) hcanonical.pos := by
    rw [UnpackedFloat.ofUInt64, UnpackedFloat.ofNat, UnpackedFloat.ofInt,
      (normalize_eq _ _).1 (by omega), hnat, Int.toNat_natCast, UnpackedFloat.round,
      targetExponent_eq, decreaseExponent, htarget, Nat.shiftLeft_eq]
    simp only [zero_sub]
    apply hcanonical.roundWithAccuracy_eq
  refine ⟨n * 2 ^ k, -k, hcanonical.pos, ?_, hlow, ?_⟩
  · rw [← hcanonical.unpack_pack _ .positive, ← hround]
    · rfl
    · rw [Binary64.size, infinitySize]
      omega
  · push_cast
    rw [mul_assoc, ← zpow_natCast, ← zpow_add₀ (by norm_num), add_neg_cancel, zpow_zero, mul_one]

/-- Whether a number is unpacked to all bits of a natural number. -/
def checkExactly (u : UnpackedFloat) (n : Nat) : Bool :=
  match u with
  | .finite .positive p e _ => 2 ^ 52 ≤ p && p * 2 ^ e.toNat == n * 2 ^ (-e).toNat
  | _ => false

/-- The check tells that a natural number is exact. -/
theorem isExactly_of_check {u : UnpackedFloat} {n : Nat} (h : checkExactly u n = true) :
  IsExactly u n
  := by
  unfold checkExactly at h
  split at h
  next p e hp =>
    rw [Bool.and_eq_true_iff, decide_eq_true_iff, beq_iff_eq] at h
    refine ⟨p, e, hp, rfl, h.1, ?_⟩
    have hvalue : (p * 2 ^ e.toNat : ℚ) = n * 2 ^ (-e).toNat := by exact_mod_cast h.2
    have hexponent : e = e.toNat - (-e).toNat := by omega
    rw [hexponent, zpow_sub₀ (by norm_num), zpow_natCast, zpow_natCast, ← mul_div_assoc, hvalue]
    field_simp
  · cases h

/-- The powers of ten in the table are exact. -/
theorem checkExactly_table :
  ∀ i : Fin Float.exactlyRepresentablePowersOfTen.size,
    checkExactly Float.exactlyRepresentablePowersOfTen[i].toModel.unpack (10 ^ i.1) = true
  := by
  decide +kernel

/-! ### Rounding decimals -/

/-- The product of exact numbers is rounded. -/
theorem rounds_mul_exact {x y : Float} {m n : Nat} (hx : IsExactly x.toModel.unpack m)
    (hy : IsExactly y.toModel.unpack n) :
  Rounds (m * n) (x * y)
  := by
  obtain ⟨p, e, hp, hunpack, hbits, hvalue⟩ := hx
  obtain ⟨p', e', hp', hunpack', hbits', hvalue'⟩ := hy
  have hmul : x * y = Float.ofModel (Float.Model.pack
      (UnpackedFloat.mul Format.binary64 x.toModel.unpack y.toModel.unpack)) := rfl
  rw [hmul, hunpack, hunpack', ← hvalue, ← hvalue']
  apply rounds_mul hp hp'
  apply Nat.le_trans hbits (Nat.le_mul_of_pos_right p hp')

/-- The quotient of exact numbers is rounded. -/
theorem rounds_div_exact {x y : Float} {m n : Nat} (hx : IsExactly x.toModel.unpack m)
    (hy : IsExactly y.toModel.unpack n) :
  Rounds (m / n) (x / y)
  := by
  obtain ⟨p, e, hp, hunpack, -, hvalue⟩ := hx
  obtain ⟨p', e', hp', hunpack', -, hvalue'⟩ := hy
  have hdiv : x / y = Float.ofModel (Float.Model.pack
      (UnpackedFloat.div Format.binary64 x.toModel.unpack y.toModel.unpack)) := rfl
  rw [hdiv, hunpack, hunpack', ← hvalue, ← hvalue']
  apply rounds_div hp hp'

/-- A number is multiplied by a power of ten. -/
theorem rounds_ofScientific_false {m k : Nat} (hm : 0 < m) (hk : k ≤ 2 ^ 11) :
  Rounds (m * 10 ^ k) (Float.ofScientific m false k)
  := by
  unfold Float.ofScientific
  split
  next h =>
    have hrounds := rounds_mul_exact (isExactly_toFloat hm h.1)
      (isExactly_of_check (checkExactly_table ⟨k, Nat.lt_succ_of_le h.2⟩))
    push_cast at hrounds
    exact hrounds
  next =>
    have hbits : Format.binary64.exponentBits = 11 := by decide
    have hbinary : Format.binary64.mantissaBits = 53 := by decide
    have hten : 0 < 10 ^ k := Nat.pow_pos (by decide)
    have hshift : 0 < m <<< 53 := by
      rw [Nat.shiftLeft_eq]
      apply Nat.mul_pos hm (Nat.two_pow_pos _)
    have hscientific : UnpackedFloat.ofScientific Format.binary64 m (k : ℤ)
        = UnpackedFloat.mul Format.binary64 (.finite .positive (m <<< 53) (-53) hshift)
          (.finite .positive (10 ^ k) 0 hten) := by
      rw [UnpackedFloat.ofScientific, dif_neg (Nat.ne_of_gt hm), if_neg, if_neg, if_pos]
      · rfl
      · omega
      · rw [hbits]
        omega
      · rw [hbits]
        omega
    have hrounds := rounds_mul (d := -53) (e := 0) hshift hten (by
      rw [Nat.shiftLeft_eq]
      nlinarith)
    have hvalue : ((m <<< 53 : Nat) * 2 ^ (-53 : ℤ) * ((10 ^ k : Nat) * 2 ^ (0 : ℤ)) : ℚ)
        = m * 10 ^ k := by
      rw [Nat.shiftLeft_eq, zpow_neg, zpow_zero, mul_one, zpow_ofNat]
      push_cast
      field_simp
      norm_num
    rw [← hscientific, hvalue] at hrounds
    exact hrounds

/-- A number is divided by a power of ten. -/
theorem rounds_ofScientific_true {m k : Nat} (hm : 0 < m) (hpos : 0 < k)
    (hk : k ≤ 2 ^ 11 + m.log2) :
  Rounds (m / 10 ^ k) (Float.ofScientific m true k)
  := by
  unfold Float.ofScientific
  split
  next h =>
    have hrounds := rounds_div_exact (isExactly_toFloat hm h.1)
      (isExactly_of_check (checkExactly_table ⟨k, Nat.lt_succ_of_le h.2⟩))
    push_cast at hrounds
    exact hrounds
  next h =>
    have hbits : Format.binary64.exponentBits = 11 := by decide
    have hten : 0 < 10 ^ k := Nat.pow_pos (by decide)
    have hscientific : UnpackedFloat.ofScientific Format.binary64 m (Int.negOfNat k)
        = UnpackedFloat.div Format.binary64 (.finite .positive m 0 hm)
          (.finite .positive (10 ^ k) 0 hten) := by
      rw [Int.negOfNat_eq, UnpackedFloat.ofScientific, dif_neg (Nat.ne_of_gt hm), if_neg, if_neg,
        if_neg]
      · simp only [Int.ofNat_eq_natCast, neg_neg, Int.toNat_natCast]
      · rw [Int.ofNat_eq_natCast]
        omega
      · rw [hbits, Int.ofNat_eq_natCast]
        omega
      · rw [hbits, Int.ofNat_eq_natCast]
        omega
    have hrounds := rounds_div (d := 0) (e := 0) hm hten
    have hvalue : (m * 2 ^ (0 : ℤ) / ((10 ^ k : Nat) * 2 ^ (0 : ℤ)) : ℚ) = m / 10 ^ k := by
      push_cast
      norm_num
    rw [← hscientific, hvalue] at hrounds
    exact hrounds

/-- A decimal that is neither too great nor too small is rounded. -/
theorem rounds_toFloat {d : Decimal} (hd : d.digits ≠ 0) (hlow : -400 ≤ d.size)
    (hhigh : d.size ≤ 400) :
  Rounds d.value d.toFloat
  := by
  have hm := Nat.pos_of_ne_zero hd
  have hcount := digitCount_le d.digits
  rw [size] at hlow hhigh
  unfold toFloat
  simp only [if_neg hd, if_neg (Int.not_lt.2 hhigh), if_neg (Int.not_lt.2 hlow)]
  split
  next hneg =>
    have hvalue : d.value = d.digits / 10 ^ d.exponent.natAbs := by
      have hexponent : d.exponent = -(d.exponent.natAbs : ℤ) := by omega
      rw [value, hexponent, zpow_neg, zpow_natCast, Int.natAbs_neg, Int.natAbs_natCast,
        div_eq_mul_inv]
    rw [hvalue]
    apply rounds_ofScientific_true hm <;> omega
  next hpos =>
    have hvalue : d.value = d.digits * 10 ^ d.exponent.natAbs := by
      have hexponent : d.exponent = (d.exponent.natAbs : ℤ) := by omega
      rw [value, hexponent, zpow_natCast, Int.natAbs_natCast]
    rw [hvalue]
    apply rounds_ofScientific_false hm
    omega

/-- The number nearest to a decimal is known by the value of the decimal. -/
theorem toFloat_congr {d d' : Decimal} (h : d.value = d'.value) :
  d.toFloat = d'.toFloat
  := by
  by_cases hd : d.digits = 0
  · have hd' : d'.digits = 0 := by
      rw [← value_eq_zero_iff, ← h, value_eq_zero_iff]
      apply hd
    rw [toFloat, toFloat, if_pos hd, if_pos hd']
  · have hd' : d'.digits ≠ 0 := by
      rw [Ne, ← value_eq_zero_iff, ← h, value_eq_zero_iff]
      apply hd
    have hsize := size_congr hd h
    by_cases hhigh : 400 < d.size
    · have hhigh' := hhigh
      rw [hsize] at hhigh'
      rw [size] at hhigh hhigh'
      simp only [toFloat, if_neg hd, if_neg hd', if_pos hhigh, if_pos hhigh']
    · by_cases hlow : d.size < -400
      · have hlow' := hlow
        have hhigh' := hhigh
        rw [hsize] at hlow' hhigh'
        rw [size] at hlow hlow' hhigh hhigh'
        simp only [toFloat, if_neg hd, if_neg hd', if_neg hhigh, if_neg hhigh', if_pos hlow,
          if_pos hlow']
      · have hrounds := rounds_toFloat hd (Int.not_lt.1 hlow) (Int.not_lt.1 hhigh)
        rw [hsize] at hlow hhigh
        have hrounds' := rounds_toFloat hd' (Int.not_lt.1 hlow) (Int.not_lt.1 hhigh)
        rw [h] at hrounds
        apply hrounds.unique hrounds'

/-- Three bits are less than a digit. -/
theorem two_pow_le (n : Nat) :
  (2 : ℚ) ^ (3 * n) ≤ 10 ^ n
  := by
  rw [pow_mul]
  apply pow_le_pow_left₀ (by norm_num) (by norm_num)

/-- A finite number is neither too great nor too small for a decimal. -/
theorem bounds_of_canonical {m : Nat} {e : ℤ} (h : Canonical m e)
    (hlt : Binary64.size m e < infinitySize) :
  (10 : ℚ) ^ (-358 : ℤ) ≤ m * 2 ^ e ∧ (m * 2 ^ e : ℚ) < 10 ^ (342 : ℤ)
  := by
  have hpos : (0 : ℚ) < 2 ^ e := zpow_pos (by norm_num) _
  have hone : (1 : ℚ) ≤ m := by exact_mod_cast h.pos
  have hless : (m : ℚ) < 2 ^ 53 := by exact_mod_cast h.lt
  have he : e ≤ 971 := by
    have hmlt := h.lt
    have hfull := h.full
    rw [Binary64.size, infinitySize] at hlt
    omega
  constructor
  · calc (10 : ℚ) ^ (-358 : ℤ) = (10 ^ 358)⁻¹ := by rw [zpow_neg, zpow_ofNat]
      _ ≤ (2 ^ (3 * 358))⁻¹ := inv_anti₀ (by positivity) (two_pow_le 358)
      _ = 2 ^ (-1074 : ℤ) := by rw [zpow_neg, zpow_ofNat]
      _ ≤ 2 ^ e := zpow_le_zpow_right₀ (by norm_num) h.least
      _ ≤ m * 2 ^ e := le_mul_of_one_le_left (le_of_lt hpos) hone
  · calc (m * 2 ^ e : ℚ) < 2 ^ 53 * 2 ^ e := mul_lt_mul_of_pos_right hless hpos
      _ = 2 ^ (53 + e) := by rw [zpow_add₀ (by norm_num), zpow_ofNat]
      _ ≤ 2 ^ ((3 * 342 : Nat) : ℤ) := zpow_le_zpow_right₀ (by norm_num) (by omega)
      _ = 2 ^ (3 * 342) := zpow_natCast _ _
      _ ≤ 10 ^ 342 := two_pow_le 342
      _ = 10 ^ (342 : ℤ) := (zpow_ofNat _ _).symm

/-- A decimal with the value of a finite number is that number. -/
theorem toFloat_of_canonical {d : Decimal} {m : Nat} {e : ℤ} (h : Canonical m e)
    (hlt : Binary64.size m e < infinitySize) (hvalue : d.value = m * 2 ^ e) :
  d.toFloat = Float.ofModel (Float.Model.pack (.finite .positive m e h.pos))
  := by
  have hbounds := bounds_of_canonical h hlt
  rw [← hvalue] at hbounds
  have hd : d.digits ≠ 0 := by
    have hpos : (0 : ℚ) < 10 ^ (-358 : ℤ) := zpow_pos (by norm_num) _
    rw [Ne, ← value_eq_zero_iff]
    apply ne_of_gt (lt_of_lt_of_le hpos hbounds.1)
  obtain ⟨hgt, hle⟩ := size_bounds hd hbounds.1 hbounds.2
  have hrounds := rounds_toFloat hd (by omega) (by omega)
  rw [hvalue] at hrounds
  apply hrounds.unique h.rounds

end Servo.Decimal
