import Servo.Proofs.Binary64.Addition

/-!
# Rounded products and quotients

A positive number is cut at a power of two into a mantissa and what the next bits say about
the rest (`Cut`).  How it is cut is known by the number alone, so two ways to write it as a
mantissa and an exponent are rounded alike (`Rounds.unique`).  Products and quotients of
canonical numbers are rounded (`rounds_mul`, `rounds_div`), and what is canonical already
stays as it is (`Canonical.rounds`).
-/

namespace Servo.Binary64

open Float.Model Float.Model.UnpackedFloat

/-! ### Cutting a number -/

/-- A number is cut at a power of two: the mantissa is its whole part, the round bit is the
first bit behind that, and the sticky bit tells whether there is a rest behind this bit. -/
structure Cut (v : ℚ) (em : ExtendedMantissa) (e : ℤ) (rest : ℚ) : Prop where
  nonneg : 0 ≤ rest
  lt_one : rest < 1
  value : v = (em.mantissa + (em.roundBit.toNat + rest) / 2) * 2 ^ e
  sticky : em.stickyBit = true ↔ rest ≠ 0

namespace Cut

variable {v : ℚ} {em em' : ExtendedMantissa} {e : ℤ} {rest rest' : ℚ}

/-- The mantissa is the whole part. -/
theorem bounds (h : Cut v em e rest) :
  em.mantissa * 2 ^ e ≤ v ∧ v < (em.mantissa + 1) * 2 ^ e
  := by
  have hpos : (0 : ℚ) < 2 ^ e := zpow_pos (by norm_num) e
  have hnonneg := h.nonneg
  have hlt := h.lt_one
  have hbit : (em.roundBit.toNat : ℚ) ≤ 1 := by exact_mod_cast em.roundBit.toNat_le
  have hbit' : (0 : ℚ) ≤ em.roundBit.toNat := Nat.cast_nonneg _
  rw [h.value]
  constructor
  · apply mul_le_mul_of_nonneg_right _ (le_of_lt hpos)
    linarith
  · apply mul_lt_mul_of_pos_right _ hpos
    linarith

/-- A number is cut in one way only. -/
theorem unique (h : Cut v em e rest) (h' : Cut v em' e rest') :
  em = em'
  := by
  have hpos : (0 : ℚ) < 2 ^ e := zpow_pos (by norm_num) e
  have hsum : (em.mantissa + (em.roundBit.toNat + rest) / 2 : ℚ)
      = em'.mantissa + (em'.roundBit.toNat + rest') / 2 :=
    mul_right_cancel₀ (ne_of_gt hpos) (h.value.symm.trans h'.value)
  have hbits : 2 * em.mantissa + em.roundBit.toNat = 2 * em'.mantissa + em'.roundBit.toNat := by
    have hlt := h.lt_one
    have hlt' := h'.lt_one
    have hnonneg := h.nonneg
    have hnonneg' := h'.nonneg
    apply le_antisymm
    · apply Nat.le_of_lt_succ
      have : (2 * em.mantissa + em.roundBit.toNat : ℚ)
          < 2 * em'.mantissa + em'.roundBit.toNat + 1 := by linarith
      exact_mod_cast this
    · apply Nat.le_of_lt_succ
      have : (2 * em'.mantissa + em'.roundBit.toNat : ℚ)
          < 2 * em.mantissa + em.roundBit.toNat + 1 := by linarith
      exact_mod_cast this
  have hrest : rest = rest' := by
    have : (2 * em.mantissa + em.roundBit.toNat : ℚ) = 2 * em'.mantissa + em'.roundBit.toNat := by
      exact_mod_cast hbits
    linarith
  have hsticky : em.stickyBit = em'.stickyBit := by
    rw [Bool.eq_iff_iff, h.sticky, h'.sticky, hrest]
  obtain ⟨m, b, s⟩ := em
  obtain ⟨m', b', s'⟩ := em'
  simp only at hbits hsticky
  have hle := b.toNat_le
  have hle' := b'.toNat_le
  have hm : m = m' := by omega
  have hb : b = b' := by cases b <;> cases b' <;> simp_all
  rw [hm, hb, hsticky]

/-- One bit less of the mantissa. -/
theorem shiftRightOne (h : Cut v em e rest) :
  Cut v em.shiftRightOne (e + 1) ((em.roundBit.toNat + rest) / 2)
  := by
  have hnonneg := h.nonneg
  have hlt := h.lt_one
  have hbit : (em.roundBit.toNat : ℚ) ≤ 1 := by exact_mod_cast em.roundBit.toNat_le
  have hbit' : (0 : ℚ) ≤ em.roundBit.toNat := Nat.cast_nonneg _
  constructor
  case nonneg => linarith
  case lt_one => linarith
  case value =>
    have hparity : (em.mantissa % 2 != 0).toNat = em.mantissa % 2 := by
      rcases Nat.mod_two_eq_zero_or_one em.mantissa with hmod | hmod <;> rw [hmod] <;> rfl
    have hmantissa : (em.mantissa : ℚ) = 2 * (em.mantissa / 2 : Nat) + (em.mantissa % 2 : Nat) := by
      exact_mod_cast (Nat.div_add_mod em.mantissa 2).symm
    rw [h.value, zpow_add_one₀ (by norm_num), ExtendedMantissa.shiftRightOne]
    simp only [hparity]
    rw [hmantissa]
    ring
  case sticky =>
    rw [ExtendedMantissa.shiftRightOne, Bool.or_eq_true, h.sticky]
    constructor
    · rintro (hround | hrest)
      · rw [hround, Bool.toNat_true, Nat.cast_one]
        linarith
      · have : 0 < rest := lt_of_le_of_ne hnonneg hrest.symm
        linarith
    · intro hne
      by_cases hround : em.roundBit = true
      · exact .inl hround
      · right
        rintro rfl
        apply hne
        rw [Bool.eq_false_of_not_eq_true hround]
        norm_num

/-- Fewer bits of the mantissa. -/
theorem shiftRight (h : Cut v em e rest) (k : Nat) :
  ∃ rest', Cut v (em >>> k) (e + k) rest'
  := by
  induction k with
  | zero =>
    rw [Nat.cast_zero, add_zero]
    exact ⟨rest, h⟩
  | succ k ih =>
    obtain ⟨rest', h'⟩ := ih
    rw [shiftRight_succ, Nat.cast_succ, ← add_assoc]
    exact ⟨_, h'.shiftRightOne⟩

end Cut

theorem mantissa_ofMantissaAndAccuracy (m : Nat) (acc : Accuracy) :
  (ExtendedMantissa.ofMantissaAndAccuracy m acc).mantissa = m
  := by
  rcases acc with _ | _ | _ | _ <;> rfl

/-- A number is cut at its whole part, if the bits behind it say how much more there is. -/
theorem cut_of_bits {m : Nat} {x rest : ℚ} {b s : Bool} (e : ℤ) (hx : 2 * x = b.toNat + rest)
    (hnonneg : 0 ≤ rest) (hlt : rest < 1) (hsticky : s = true ↔ rest ≠ 0) :
  Cut ((m + x) * 2 ^ e) ⟨m, b, s⟩ e rest
  := by
  constructor
  case nonneg => exact hnonneg
  case lt_one => exact hlt
  case value =>
    congr 1
    linarith
  case sticky => exact hsticky

/-- A quotient is cut at its whole part. -/
theorem cut_div (n : Nat) {d : Nat} (hd : 0 < d) (e : ℤ) :
  ∃ rest, Cut (n / d * 2 ^ e)
    (.ofMantissaAndAccuracy (n / d) (accuracyOfFraction (n % d) d)) e rest
  := by
  have hdpos : (0 : ℚ) < d := by exact_mod_cast hd
  have hn : (n : ℚ) = d * (n / d : Nat) + (n % d : Nat) := by
    exact_mod_cast (Nat.div_add_mod n d).symm
  have hmod : ((n % d : Nat) : ℚ) < d := by exact_mod_cast Nat.mod_lt n hd
  have hvalue : (n / d : ℚ) = (n / d : Nat) + (n % d : Nat) / d := by
    rw [hn]
    field_simp
  rw [accuracyOfFraction, hvalue]
  generalize n % d = r at *
  generalize n / d = q at *
  obtain ⟨x, hx⟩ : ∃ x : ℚ, x = r / d := ⟨_, rfl⟩
  have hnonneg : 0 ≤ x := by
    rw [hx]
    positivity
  have hlt : x < 1 := by rwa [hx, div_lt_one hdpos]
  have hr : (r : ℚ) = d * x := by
    rw [hx]
    field_simp
  rw [← hx]
  by_cases hzero : r = 0
  · rw [hzero, Nat.cast_zero, zero_div] at hx
    rw [if_pos hzero, hx]
    exact ⟨0, cut_of_bits e (by simp) le_rfl zero_lt_one (by simp)⟩
  · have hpos : 0 < x := by
      have : (0 : ℚ) < r := by exact_mod_cast Nat.pos_of_ne_zero hzero
      rw [hx]
      positivity
    rw [if_neg hzero]
    -- the rest is compared with one half, which the round bit stands for
    rcases Nat.lt_trichotomy (2 * r) d with hless | heq | hgreater
    · have hhalf : 2 * x < 1 := by
        have : (2 * r : ℚ) < d := by exact_mod_cast hless
        nlinarith
      rw [Nat.compare_eq_lt.2 hless]
      exact ⟨2 * x, cut_of_bits e (by simp) (by linarith) hhalf
        (iff_of_true rfl (ne_of_gt (by linarith)))⟩
    · have hhalf : 2 * x = 1 := by
        have : (2 * r : ℚ) = d := by exact_mod_cast heq
        nlinarith
      rw [Nat.compare_eq_eq.2 heq]
      exact ⟨0, cut_of_bits e (by simp [hhalf]) le_rfl zero_lt_one (by simp)⟩
    · have hhalf : 1 < 2 * x := by
        have : (d : ℚ) < 2 * r := by exact_mod_cast hgreater
        nlinarith
      rw [Nat.compare_eq_gt.2 hgreater]
      exact ⟨2 * x - 1, cut_of_bits e (by simp) (by linarith) (by linarith)
        (iff_of_true rfl (ne_of_gt (by linarith)))⟩

/-- A whole multiple of a power of two is cut there. -/
theorem cut_exact (m : Nat) (e : ℤ) :
  Cut (m * 2 ^ e) (.ofMantissaAndAccuracy m .exact) e 0
  := by
  constructor <;> simp [ExtendedMantissa.ofMantissaAndAccuracy]

/-! ### Rounding -/

/-- The number is rounded from a mantissa with enough bits. -/
def Rounds (v : ℚ) (x : Float) : Prop :=
  ∃ m e acc rest, (2 ^ 52 ≤ m ∨ e ≤ -1074)
    ∧ Cut v (.ofMantissaAndAccuracy m acc) e rest
    ∧ x = Float.ofModel (Float.Model.pack (roundWithAccuracy Format.binary64 .positive m e acc))

/-- The exponent to which a positive mantissa is rounded says between which powers of two the
number is. -/
theorem Cut.log2_bounds {v : ℚ} {m : Nat} {e : ℤ} {acc : Accuracy} {rest : ℚ} (hm : 0 < m)
    (h : Cut v (.ofMantissaAndAccuracy m acc) e rest) :
  2 ^ (m.log2 + e) ≤ v ∧ v < 2 ^ (m.log2 + e + 1)
  := by
  have hpos : (0 : ℚ) < 2 ^ e := zpow_pos (by norm_num) e
  have hbounds := h.bounds
  rw [mantissa_ofMantissaAndAccuracy] at hbounds
  have hlow : (2 ^ m.log2 : ℚ) ≤ m := by exact_mod_cast Nat.log2_self_le (Nat.ne_of_gt hm)
  have hhigh : (m + 1 : ℚ) ≤ 2 ^ (m.log2 + 1) := by exact_mod_cast Nat.lt_log2_self
  constructor
  · apply LE.le.trans _ hbounds.1
    rw [zpow_add₀ (by norm_num), zpow_natCast]
    apply mul_le_mul_of_nonneg_right hlow (le_of_lt hpos)
  · apply lt_of_lt_of_le hbounds.2
    have hsum : (m.log2 + e + 1 : ℤ) = (m.log2 + 1 : Nat) + e := by
      push_cast
      ring
    rw [hsum, zpow_add₀ (by norm_num), zpow_natCast]
    apply mul_le_mul_of_nonneg_right hhigh (le_of_lt hpos)

/-- The exponent to which a number is rounded. -/
def target (m : Nat) (e : ℤ) : ℤ := max (m.log2 + 1 + e - 53) (-1074)

/-- The number alone determines the exponent to which it is rounded. -/
theorem Cut.target_le {v : ℚ} {m m' : Nat} {e e' : ℤ} {acc acc' : Accuracy} {rest rest' : ℚ}
    (h : Cut v (.ofMantissaAndAccuracy m acc) e rest)
    (h' : Cut v (.ofMantissaAndAccuracy m' acc') e' rest') (hbits : 2 ^ 52 ≤ m ∨ e ≤ -1074) :
  target m e ≤ target m' e'
  := by
  rw [target, target]
  rcases Nat.eq_zero_or_pos m with rfl | hm
  · have hlog : Nat.log2 0 = 0 := rfl
    omega
  · have hlow := (h.log2_bounds hm).1
    have hlt : (m.log2 + e : ℤ) < m'.log2 + e' + 1 := by
      rw [← zpow_lt_zpow_iff_right₀ (show (1 : ℚ) < 2 by norm_num)]
      apply lt_of_le_of_lt hlow
      rcases Nat.eq_zero_or_pos m' with rfl | hm'
      · have hhigh := h'.bounds.2
        rw [mantissa_ofMantissaAndAccuracy, Nat.cast_zero, zero_add, one_mul] at hhigh
        apply lt_of_lt_of_le hhigh
        apply zpow_le_zpow_right₀ (by norm_num)
        have hlog : Nat.log2 0 = 0 := rfl
        omega
      · apply (h'.log2_bounds hm').2
    omega

/-- The first step of rounding a number that has bits enough. -/
theorem Cut.shiftToTargetExponent {v : ℚ} {m : Nat} {e : ℤ} {acc : Accuracy} {rest : ℚ}
    (h : Cut v (.ofMantissaAndAccuracy m acc) e rest) (hbits : 2 ^ 52 ≤ m ∨ e ≤ -1074) :
  ∃ em rest', shiftToTargetExponent Format.binary64 m e acc = (em, target m e)
    ∧ Cut v em (target m e) rest'
  := by
  have hlog : 2 ^ 52 ≤ m → 52 ≤ m.log2 := fun hm => (Nat.le_log2 (by omega)).2 hm
  have hle : e + (target m e - e).toNat = target m e := by
    rw [target]
    omega
  obtain ⟨rest', h'⟩ := h.shiftRight (target m e - e).toNat
  rw [hle] at h'
  refine ⟨_, rest', ?_, h'⟩
  rw [UnpackedFloat.shiftToTargetExponent, targetExponent_eq, shiftToExponent, ← target, hle]

/-- Numbers are rounded in one way only. -/
theorem Rounds.unique {v : ℚ} {x y : Float} (hx : Rounds v x) (hy : Rounds v y) :
  x = y
  := by
  obtain ⟨m, e, acc, rest, hbits, hcut, rfl⟩ := hx
  obtain ⟨m', e', acc', rest', hbits', hcut', rfl⟩ := hy
  have htarget : target m e = target m' e' :=
    le_antisymm (hcut.target_le hcut' hbits) (hcut'.target_le hcut hbits')
  obtain ⟨em, _, hshift, hem⟩ := hcut.shiftToTargetExponent hbits
  obtain ⟨em', _, hshift', hem'⟩ := hcut'.shiftToTargetExponent hbits'
  rw [← htarget] at hshift' hem'
  rw [roundWithAccuracy, roundWithAccuracy, hshift, hshift', hem.unique hem']

/-! ### Canonical numbers -/

/-- A canonical number is the only one of its size. -/
theorem Canonical.eq_of_size {m m' : Nat} {e e' : ℤ} (h : Canonical m e) (h' : Canonical m' e')
    (hsize : size m e = size m' e') :
  m = m' ∧ e = e'
  := by
  have hlt := h.lt
  have hleast := h.least
  have hfull := h.full
  have hlt' := h'.lt
  have hleast' := h'.least
  have hfull' := h'.full
  rw [size, size] at hsize
  omega

/-- A canonical number is not changed if it is rounded. -/
theorem Canonical.roundWithAccuracy_eq {m : Nat} {e : ℤ} (h : Canonical m e) (s : Sign) :
  roundWithAccuracy Format.binary64 s m e .exact = .finite s m e h.pos
  := by
  have hrounding : Rounding m e 0 e := by
    have hlog : m.log2 < 53 := (Nat.log2_lt (Nat.ne_of_gt h.pos)).2 h.lt
    have hfull : 2 ^ 52 ≤ m → 52 ≤ m.log2 := fun hm => (Nat.le_log2 (by omega)).2 hm
    have hcases := h.full
    have hleast := h.least
    constructor
    case pos => exact h.pos
    case least => exact h.least
    case exponent => omega
    case target => omega
  obtain ⟨m', e', hm', hround, hcanonical, hsize⟩ := hrounding.roundWithAccuracy_eq s
  have hkept : rounded m 0 = m := rfl
  rw [hkept] at hsize
  obtain ⟨rfl, rfl⟩ := hcanonical.eq_of_size h hsize
  exact hround

/-- A canonical number is what it is rounded to. -/
theorem Canonical.rounds {m : Nat} {e : ℤ} (h : Canonical m e) :
  Rounds (m * 2 ^ e) (Float.ofModel (Float.Model.pack (.finite .positive m e h.pos)))
  := by
  have hbits : 2 ^ 52 ≤ m ∨ e ≤ -1074 := by
    have := h.full
    omega
  refine ⟨m, e, .exact, 0, hbits, cut_exact m e, ?_⟩
  rw [h.roundWithAccuracy_eq]

/-- What is unpacked to the place of a canonical number is that number. -/
theorem Canonical.eq_finite_of_place {u : UnpackedFloat} {m : Nat} {e : ℤ} {s : Sign}
    (h : Canonical m e) (hlt : size m e < infinitySize) (hcanonical : IsCanonical u)
    (hnan : u.isNaN = false) (hplace : unpackedPlace u = s.apply (size m e)) :
  u = .finite s m e h.pos
  := by
  have hpos := h.size_pos
  cases u with
  | notANumber => cases hnan
  | infinity s' =>
    exfalso
    rw [unpackedPlace] at hplace
    cases s <;> cases s' <;> simp only [Sign.apply, infinitySize] at * <;> omega
  | zero s' =>
    exfalso
    rw [unpackedPlace] at hplace
    cases s <;> simp only [Sign.apply] at hplace <;> omega
  | finite s' m' e' hm' =>
    have hpos' := hcanonical.1.size_pos
    rw [unpackedPlace] at hplace
    have hsame : s' = s ∧ size m' e' = size m e := by
      cases s <;> cases s' <;> simp only [Sign.apply] at hplace <;>
        first
          | exact ⟨rfl, by omega⟩
          | omega
    obtain ⟨rfl, hsize⟩ := hsame
    obtain ⟨rfl, rfl⟩ := hcanonical.1.eq_of_size h hsize
    rfl

/-- A canonical number that is packed is unpacked again. -/
theorem Canonical.unpack_pack {m : Nat} {e : ℤ} (h : Canonical m e)
    (hlt : size m e < infinitySize) (s : Sign) :
  (Float.Model.pack (.finite s m e h.pos)).unpack = .finite s m e h.pos
  := by
  have hunpacks := unpacks_float (Float.ofModel (Float.Model.pack (.finite s m e h.pos)))
  obtain ⟨hnan, hplace⟩ := place_pack h.pos h s
  rw [min_eq_left (le_of_lt hlt), place, ← hunpacks.place hnan] at hplace
  apply h.eq_finite_of_place hlt hunpacks.canonical hnan hplace

/-! ### Products and quotients -/

/-- The product of mantissas with bits enough is rounded. -/
theorem rounds_mul {m n : Nat} {d e : ℤ} (hm : 0 < m) (hn : 0 < n) (hbits : 2 ^ 52 ≤ m * n) :
  Rounds (m * 2 ^ d * (n * 2 ^ e)) (Float.ofModel (Float.Model.pack
    (UnpackedFloat.mul Format.binary64 (.finite .positive m d hm) (.finite .positive n e hn))))
  := by
  refine ⟨m * n, d + e, .exact, 0, .inl hbits, ?_, rfl⟩
  have hvalue : (m * 2 ^ d * (n * 2 ^ e) : ℚ) = (m * n : Nat) * 2 ^ (d + e) := by
    rw [zpow_add₀ (by norm_num)]
    push_cast
    ring
  rw [hvalue]
  apply cut_exact

/-- The quotient of numbers is rounded. -/
theorem rounds_div {m n : Nat} {d e : ℤ} (hm : 0 < m) (hn : 0 < n) :
  Rounds (m * 2 ^ d / (n * 2 ^ e)) (Float.ofModel (Float.Model.pack
    (UnpackedFloat.div Format.binary64 (.finite .positive m d hm) (.finite .positive n e hn))))
  := by
  obtain ⟨t, ht⟩ : ∃ t, t = min (d - e) (Format.binary64.targetExponent
      (totalExponent m d - totalExponent n e)) := ⟨_, rfl⟩
  obtain ⟨k, hk⟩ : ∃ k, k = (d - e - t).toNat := ⟨_, rfl⟩
  have hbinary : (Format.binary64.mantissaBits : ℤ) = 53 := by decide
  have hleast : Format.binary64.minExponent = -1074 := by decide
  have hquotient : UnpackedFloat.div Format.binary64 (.finite .positive m d hm)
      (.finite .positive n e hn)
      = roundWithAccuracy Format.binary64 .positive (m * 2 ^ k / n) t
        (accuracyOfFraction (m * 2 ^ k % n) n) := by
    rw [hk, ht, ← Nat.shiftLeft_eq]
    rfl
  rw [Format.targetExponent, hbinary, hleast, totalExponent, totalExponent] at ht
  have hvalue : (m * 2 ^ d / (n * 2 ^ e) : ℚ) = (m * 2 ^ k : Nat) / n * 2 ^ t := by
    have hnpos : (0 : ℚ) < n := by exact_mod_cast hn
    have hsum : (d : ℤ) = k + t + e := by omega
    rw [hsum, zpow_add₀ (by norm_num), zpow_add₀ (by norm_num), zpow_natCast]
    push_cast
    field_simp
  have hbits : 2 ^ 52 ≤ m * 2 ^ k / n ∨ t ≤ -1074 := by
    by_cases htop : t ≤ -1074
    · exact .inr htop
    · left
      have hlow : 2 ^ m.log2 ≤ m := Nat.log2_self_le (Nat.ne_of_gt hm)
      have hhigh : n < 2 ^ (n.log2 + 1) := Nat.lt_log2_self
      rw [Nat.le_div_iff_mul_le hn]
      calc 2 ^ 52 * n ≤ 2 ^ 52 * 2 ^ (n.log2 + 1) := Nat.mul_le_mul_left _ (le_of_lt hhigh)
        _ = 2 ^ (n.log2 + 53) := by rw [← Nat.pow_add]; congr 1; omega
        _ ≤ 2 ^ (m.log2 + k) := Nat.pow_le_pow_right (by decide) (by omega)
        _ = 2 ^ m.log2 * 2 ^ k := Nat.pow_add _ _ _
        _ ≤ m * 2 ^ k := Nat.mul_le_mul_right _ hlow
  obtain ⟨rest, hcut⟩ := cut_div (m * 2 ^ k) hn t
  rw [hquotient, hvalue]
  exact ⟨_, t, _, rest, hbits, hcut, rfl⟩

end Servo.Binary64
