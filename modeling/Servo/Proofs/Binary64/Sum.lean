import Servo.Proofs.Binary64.Rounding

/-!
# Bounds of sums

A positive number is `UpTo` a multiple of the least one.  Adding two such numbers adds the bounds,
as long as the sum of the bounds can be represented (`UpTo.add`), although the sum of the numbers is
rounded.
-/

namespace Servo.Binary64

open Float.Model Float.Model.UnpackedFloat

/-! ### Values and places -/

theorem lt_of_le_of_lt {x y z : Float} (hxy : x ≤ y) (hyz : y < z) :
  x < z
  := by
  obtain ⟨hx, -, hle⟩ := le_iff.1 hxy
  obtain ⟨-, hz, hlt⟩ := lt_iff.1 hyz
  exact lt_iff.2 ⟨hx, hz, Int.lt_of_le_of_lt hle hlt⟩

/-- Values grow with the places of numbers. -/
theorem Canonical.scaled_le {m p : Nat} {e q : ℤ} (h : Canonical m e) (h' : Canonical p q)
    (hsize : size m e ≤ size p q) :
  scaled m e ≤ scaled p q
  := by
  have hlt := h.lt
  have hlt' := h'.lt
  have hleast := h.least
  have hleast' := h'.least
  have hfull := h.full
  have hfull' := h'.full
  rw [size, size] at hsize
  rcases Int.lt_trichotomy e q with heq | rfl | heq
  · have hpow : 2 ^ 53 * 2 ^ (e + 1074).toNat ≤ 2 ^ 52 * 2 ^ (q + 1074).toNat := by
      rw [← Nat.pow_add, ← Nat.pow_add]
      apply Nat.pow_le_pow_right (by decide)
      omega
    calc scaled m e
      _ ≤ 2 ^ 53 * 2 ^ (e + 1074).toNat := Nat.mul_le_mul_right _ (Nat.le_of_lt hlt)
      _ ≤ 2 ^ 52 * 2 ^ (q + 1074).toNat := hpow
      _ ≤ scaled p q := Nat.mul_le_mul_right _ (by omega)
  · apply Nat.mul_le_mul_right
    omega
  · exfalso
    omega

/-- A multiple of a power of two that fits into 53 bits can be represented. -/
theorem exists_canonical {n j : Nat} (hn : 0 < n) (hlt : n < 2 ^ 53) (hj : 52 ≤ j)
    (hj' : j ≤ 2000) :
  ∃ p q, Canonical p q ∧ size p q < infinitySize ∧ scaled p q = n * 2 ^ j
  := by
  obtain ⟨s, hs⟩ : ∃ s, s = 52 - n.log2 := ⟨_, rfl⟩
  have hlog : n.log2 < 53 := (Nat.log2_lt (Nat.ne_of_gt hn)).2 hlt
  have hlow : 2 ^ 52 ≤ n * 2 ^ s := by
    calc 2 ^ 52 = 2 ^ n.log2 * 2 ^ s := by
          rw [← Nat.pow_add]
          congr 1
          omega
      _ ≤ n * 2 ^ s := Nat.mul_le_mul_right _ (Nat.log2_self_le (Nat.ne_of_gt hn))
  have hhigh : n * 2 ^ s < 2 ^ 53 := by
    calc n * 2 ^ s < 2 ^ (n.log2 + 1) * 2 ^ s :=
          Nat.mul_lt_mul_of_pos_right Nat.lt_log2_self (Nat.two_pow_pos s)
      _ = 2 ^ 53 := by
          rw [← Nat.pow_add]
          congr 1
          omega
  refine ⟨n * 2 ^ s, j - s - 1074, ?_, ?_, ?_⟩
  · constructor <;> omega
  · rw [size, infinitySize]
    omega
  · have hsum : (j - s - 1074 + 1074 : ℤ).toNat = j - s := by omega
    rw [scaled, hsum, Nat.mul_assoc, ← Nat.pow_add]
    congr 2
    omega

/-- The sum of two positive numbers is exact before it is rounded. -/
theorem add_eq_round {m n : Nat} {d e : ℤ} (hm : 0 < m) (hn : 0 < n) (hd : -1074 ≤ d)
    (he : -1074 ≤ e) :
  ∃ a c, 0 < a ∧ -1074 ≤ c ∧ scaled a c = scaled m d + scaled n e
    ∧ UnpackedFloat.add Format.binary64 (.finite .positive m d hm) (.finite .positive n e hn)
      = UnpackedFloat.round Format.binary64 .positive a c
  := by
  -- Both mantissas are shifted to the lesser one of the exponents.
  obtain ⟨c, hc⟩ : ∃ c, c = min d e := ⟨_, rfl⟩
  obtain ⟨a, ha⟩ : ∃ a, a = m <<< (d - c).toNat := ⟨_, rfl⟩
  obtain ⟨b, hb⟩ : ∃ b, b = n <<< (e - c).toNat := ⟨_, rfl⟩
  have hapos : 0 < a := by
    rw [ha, Nat.shiftLeft_eq]
    apply Nat.mul_pos hm (Nat.two_pow_pos _)
  have hascaled : scaled a c = scaled m d := by
    rw [ha]
    apply scaled_shiftLeft m (by omega) (by omega)
  have hbscaled : scaled b c = scaled n e := by
    rw [hb]
    apply scaled_shiftLeft n (by omega) (by omega)
  have hnormal : UnpackedFloat.add Format.binary64 (.finite .positive m d hm)
        (.finite .positive n e hn)
      = UnpackedFloat.normalize Format.binary64 ((a : ℤ) + b) c .positive := by
    rw [ha, hb, hc]
    rfl
  refine ⟨a + b, c, by omega, by omega, ?_, ?_⟩
  · rw [← hascaled, ← hbscaled]
    apply Nat.add_mul
  · rw [hnormal, (normalize_eq _ c).1 (by omega)]
    congr 1

/-! ### Bounds -/

/-- A number is positive and finite, and not greater than the multiple `v` of the least one. -/
def UpTo (v : Nat) (x : Float) : Prop :=
  ∃ m e hm, x.toModel.unpack = .finite .positive m e hm ∧ Canonical m e ∧ scaled m e ≤ v

/-- A number at the place of a canonical one has its value. -/
theorem UpTo.of_place {m : Nat} {e : ℤ} {x : Float} (h : Canonical m e)
    (hlt : size m e < infinitySize) (hnan : x.isNaN = false) (hplace : place x = size m e) :
  UpTo (scaled m e) x
  := by
  have hx := unpacks_float x
  rw [place, ← hx.place hnan] at hplace
  exact ⟨m, e, h.pos, h.eq_finite_of_place (s := .positive) hlt hx.canonical hnan hplace, h,
    Nat.le_refl _⟩

theorem UpTo.mono {v v' : Nat} {x : Float} (h : UpTo v x) (hle : v ≤ v') :
  UpTo v' x
  := by
  obtain ⟨m, e, hm, hx, hcanonical, hv⟩ := h
  exact ⟨m, e, hm, hx, hcanonical, Nat.le_trans hv hle⟩

/-- Adding to zero changes nothing. -/
theorem UpTo.zero_add {v : Nat} {x : Float} (h : UpTo v x) :
  UpTo v (0 + x)
  := by
  obtain ⟨m, e, hm, hx, hcanonical, hv⟩ := h
  have hlt : size m e < infinitySize := by
    have hcanonical' := (unpacks_float x).canonical
    rw [hx] at hcanonical'
    apply hcanonical'.2
  have hsum : (0 + x).toModel.unpack = (Float.Model.pack (.finite .positive m e hm)).unpack := by
    have hzero : (0 : Float).toModel.unpack = .zero .positive := by rfl
    show (Float.Model.pack (UnpackedFloat.add Format.binary64 (0 : Float).toModel.unpack
      x.toModel.unpack)).unpack = _
    rw [hx, hzero]
    rfl
  refine ⟨m, e, hm, ?_, hcanonical, hv⟩
  rw [hsum, hcanonical.unpack_pack hlt]

/-- The bounds of two numbers are added. -/
theorem UpTo.add {v v' p : Nat} {q : ℤ} {x y : Float} (hx : UpTo v x) (hy : UpTo v' y)
    (h : Canonical p q) (hlt : size p q < infinitySize) (hsum : v + v' ≤ scaled p q) :
  UpTo (scaled p q) (x + y)
  := by
  obtain ⟨m, d, hm, hxm, hm', hv⟩ := hx
  obtain ⟨n, e, hn, hyn, hn', hv'⟩ := hy
  obtain ⟨a, c, ha, hc, hexact, hadd⟩ := add_eq_round hm hn hm'.least hn'.least
  obtain ⟨m', e', hpos, hround, hcanonical, horder⟩ := round_eq ha hc .positive
  have hsize := (horder h).2 (by omega)
  have hunpack : (x + y).toModel.unpack
      = (Float.Model.pack (.finite .positive m' e' hpos)).unpack := by
    rw [← hround, ← hadd, ← hxm, ← hyn]
    rfl
  refine ⟨m', e', hpos, ?_, hcanonical, hcanonical.scaled_le h hsize⟩
  rw [hunpack, hcanonical.unpack_pack (by omega)]

/-- A number whose value is greater than a bound is greater than what has this bound. -/
theorem UpTo.lt {v p : Nat} {q : ℤ} {x y : Float} (hx : UpTo v x) (h : Canonical p q)
    (hnan : y.isNaN = false) (hplace : place y = size p q) (hlt : v < scaled p q) :
  x < y
  := by
  obtain ⟨m, e, hm, hxm, hcanonical, hv⟩ := hx
  have hsize : size m e < size p q := by
    by_contra hnot
    have := h.scaled_le hcanonical (Int.not_lt.1 hnot)
    omega
  have hxnan : x.toModel.unpack.isNaN = false := by
    rw [hxm]
    rfl
  have hxplace : place x = size m e := by
    rw [place, ← (unpacks_float x).place hxnan, hxm]
    rfl
  rw [lt_iff, hxplace, hplace]
  exact ⟨hxnan, hnan, hsize⟩

end Servo.Binary64
