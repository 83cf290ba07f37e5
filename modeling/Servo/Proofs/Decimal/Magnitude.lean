import Servo.Decimal.Basic
import Servo.Proofs.Binary64.Rounding

/-!
# Values of binary64 numbers

A finite number is its `magnitude` with a sign: it is unpacked to the same mantissa and
exponent (`unpack_of_magnitude`), and its absolute value with its sign is the number again
(`signed_abs`).  The numbers that are not finite are listed in `eq_of_not_isFinite`.
-/

namespace Servo

open Float.Model Float.Model.UnpackedFloat

/-! ### Numbers that are finite and others -/

/-- A finite number is written from its digits. -/
theorem magnitude_of_isFinite {x : Float} (hx : x.isFinite = true) :
  ∃ m q, magnitude x = .finite m q
  := by
  rw [Binary64.isFinite_iff, Binary64.distance, Binary64.infinitySize] at hx
  have hbits : x.toBits.toNat / hiddenBit % 2048 ≠ 2047 := by
    rw [hiddenBit]
    omega
  rw [magnitude]
  simp only [if_neg hbits]
  split
  · exact ⟨_, _, rfl⟩
  · exact ⟨_, _, rfl⟩

theorem eq_of_toBits {x y : Float} (h : x.toBits.toNat = y.toBits.toNat) :
  x = y
  := by
  obtain ⟨⟨b, hb⟩⟩ := x
  obtain ⟨⟨c, hc⟩⟩ := y
  cases UInt64.toNat_inj.1 h
  rfl

/-- There is one number that is no number: valid bits with the greatest exponent and a
mantissa that is not zero are its bits. -/
theorem eq_packedNaN {b : BitVec Float.Model.Format.binary64.numBits}
    (h : Float.Model.Format.binary64.Valid b) (hexponent : b.toNat / 2 ^ 52 % 2 ^ 11 = 2047)
    (hmantissa : b.toNat % 2 ^ 52 ≠ 0) :
  b = Float.Model.UnpackedFloat.packedNaN Float.Model.Format.binary64
  := by
  apply h.eq_packedNaN
  · apply BitVec.eq_of_toNat_eq
    rw [Binary64.toNat_unpackExponent, hexponent]
    rfl
  · intro hzero
    apply hmantissa
    rw [← Binary64.toNat_unpackMantissa, hzero]
    rfl

/-- Three numbers are not finite: the one that is no number, and the two infinities. -/
theorem eq_of_not_isFinite {x : Float} (hx : ¬ x.isFinite = true) :
  x = Decimal.nan ∨ x = Decimal.infinity ∨ x = -Decimal.infinity
  := by
  rw [Binary64.isFinite_iff, Binary64.distance, Binary64.infinitySize] at hx
  have hlt := x.toBits.toNat_lt
  by_cases hinfinite : x.toBits.toNat % 2 ^ 63 = 2047 * 2 ^ 52
  · right
    by_cases hsign : x.toBits.toNat < 2 ^ 63
    · left
      have hbits : Decimal.infinity.toBits.toNat = 2047 * 2 ^ 52 := by decide +kernel
      apply eq_of_toBits
      omega
    · right
      have hbits : (-Decimal.infinity).toBits.toNat = 2 ^ 63 + 2047 * 2 ^ 52 := by
        decide +kernel
      apply eq_of_toBits
      omega
  · left
    have hbitVec : x.toModel.toBits.toBitVec.toNat = x.toBits.toNat := rfl
    have hnan := eq_packedNaN x.toModel.valid (by rw [hbitVec]; omega) (by rw [hbitVec]; omega)
    have hbits : (Float.Model.UnpackedFloat.packedNaN Float.Model.Format.binary64).toNat
        = Decimal.nan.toBits.toNat := by
      decide +kernel
    apply eq_of_toBits
    rw [← hbits, ← hnan]
    rfl

/-! ### Signs and magnitudes -/

/-- A number that is negative is the greater half of the bits. -/
theorem negative_iff {x : Float} :
  negative x = true ↔ ¬ x.toBits.toNat < 2 ^ 63
  := by
  rw [negative, decide_eq_true_iff, UInt64.le_iff_toNat_le, Nat.not_lt]
  rfl

/-- The magnitude of a number tells its place, apart from its sign. -/
theorem distance_of_magnitude {x : Float} {m : Nat} {q : ℤ} (h : magnitude x = .finite m q) :
  Binary64.distance x.toBits.toNat = Binary64.size m q
    ∧ Binary64.size m q < Binary64.infinitySize
    ∧ (m = 0 ∧ q = -1074 ∨ Binary64.Canonical m q)
  := by
  have hhidden : hiddenBit = 2 ^ 52 := rfl
  rw [Binary64.distance, Binary64.size, Binary64.infinitySize]
  rw [magnitude] at h
  by_cases htop : x.toBits.toNat / hiddenBit % 2048 = 2047
  · simp only [if_pos htop] at h
    split at h <;> cases h
  · by_cases hleast : x.toBits.toNat / hiddenBit % 2048 = 0
    · simp only [if_neg htop, if_pos hleast] at h
      injection h with hm hq
      rw [hhidden] at *
      refine ⟨by omega, by omega, ?_⟩
      by_cases hzero : m = 0
      · left
        omega
      · right
        constructor <;> omega
    · simp only [if_neg htop, if_neg hleast] at h
      injection h with hm hq
      rw [hhidden] at *
      refine ⟨by omega, by omega, .inr ?_⟩
      constructor <;> omega

/-- The numbers at the distance zero are the two zeros. -/
theorem eq_zero_of_distance {x : Float} (h : Binary64.distance x.toBits.toNat = 0) :
  x = 0 ∨ x = -0
  := by
  have hlt := x.toBits.toNat_lt
  rw [Binary64.distance] at h
  by_cases hsign : x.toBits.toNat < 2 ^ 63
  · left
    have hbits : (0 : Float).toBits.toNat = 0 := by decide +kernel
    apply eq_of_toBits
    omega
  · right
    have hbits : (-0 : Float).toBits.toNat = 2 ^ 63 := by decide +kernel
    apply eq_of_toBits
    omega

/-- Without mantissa there are the two zeros. -/
theorem eq_zero_of_magnitude {x : Float} {q : ℤ} (h : magnitude x = .finite 0 q) :
  x = 0 ∨ x = -0
  := by
  obtain ⟨hdistance, -, ⟨-, rfl⟩ | hcanonical⟩ := distance_of_magnitude h
  · rw [Binary64.size] at hdistance
    apply eq_zero_of_distance
    omega
  · exact absurd hcanonical.pos (Nat.lt_irrefl 0)

/-- The two zeros are the numbers that are equal to zero. -/
theorem beq_zero_iff {x : Float} :
  (x == 0) = true ↔ x = 0 ∨ x = -0
  := by
  constructor
  · intro h
    obtain ⟨-, -, hplace⟩ := Binary64.beq_iff.1 h
    have hzero : Binary64.place 0 = 0 := by decide +kernel
    rw [hzero, Binary64.place, Binary64.bitsPlace] at hplace
    apply eq_zero_of_distance
    split at hplace <;> omega
  · rintro (rfl | rfl) <;> decide +kernel

/-- A number is unpacked to its sign and its magnitude. -/
theorem unpack_of_magnitude {x : Float} {m : Nat} {q : ℤ} (h : magnitude x = .finite m q)
    (hm : m ≠ 0) :
  ∃ hcanonical : Binary64.Canonical m q, Binary64.size m q < Binary64.infinitySize
    ∧ x.toModel.unpack
      = .finite (if negative x then .negative else .positive) m q hcanonical.pos
  := by
  obtain ⟨hdistance, hsize, ⟨hzero, -⟩ | hcanonical⟩ := distance_of_magnitude h
  · exact absurd hzero hm
  have hunpacks := Binary64.unpacks_float x
  have hnan : x.toModel.unpack.isNaN = false := by
    rw [hunpacks.isNaN, decide_eq_false_iff_not]
    omega
  refine ⟨hcanonical, hsize, ?_⟩
  apply hcanonical.eq_finite_of_place hsize hunpacks.canonical hnan
  rw [hunpacks.place hnan, Binary64.bitsPlace, hdistance, ← Binary64.apply_sign]
  congr 1
  simp only [negative_iff, ite_not]

/-- The absolute value of a number that is unpacked. -/
theorem abs_of_unpack {x : Float} {s : Sign} {m : Nat} {q : ℤ} {hm : 0 < m}
    (h : x.toModel.unpack = .finite s m q hm) :
  x.abs = Float.ofModel (Float.Model.pack (.finite .positive m q hm))
  := congrArg (fun u : UnpackedFloat => Float.ofModel (Float.Model.pack u.abs)) h

/-- A finite number is its absolute value with its sign. -/
theorem signed_abs {x : Float} (hx : x.isFinite = true) :
  (if negative x then -x.abs else x.abs) = x
  := by
  obtain ⟨m, q, h⟩ := magnitude_of_isFinite hx
  by_cases hm : m = 0
  · rw [hm] at h
    rcases eq_zero_of_magnitude h with rfl | rfl <;> decide +kernel
  · obtain ⟨hcanonical, hsize, hunpack⟩ := unpack_of_magnitude h hm
    have hpack : x = Float.ofModel (Float.Model.pack x.toModel.unpack) := by
      apply eq_of_toBits
      exact congrArg BitVec.toNat (pack_unpack_of_valid x.toModel.valid).symm
    have habs := abs_of_unpack hunpack
    have hneg : -x.abs
        = Float.ofModel (Float.Model.pack (.finite .negative m q hcanonical.pos)) := by
      rw [habs]
      exact congrArg (fun u : UnpackedFloat => Float.ofModel (Float.Model.pack u.neg))
        (hcanonical.unpack_pack hsize .positive)
    rw [hunpack] at hpack
    rw [hneg, habs]
    cases hsign : negative x with
    | false =>
      rw [hsign] at hpack
      exact hpack.symm
    | true =>
      rw [hsign] at hpack
      exact hpack.symm

end Servo
