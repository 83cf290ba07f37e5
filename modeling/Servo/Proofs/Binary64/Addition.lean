import Servo.Proofs.Binary64.Order

/-!
# Sums of binary64 numbers

Rounding is monotone: what is rounded keeps its order with every number that can be
represented (`Rounding.le_size` and `Rounding.size_le`).  Hence time does not go back when a
positive number is added to it, however small that is (`le_add`).
-/

namespace Servo.Binary64

open Float.Model Float.Model.UnpackedFloat

/-! ### Dropping bits -/

theorem shiftRight_succ (em : ExtendedMantissa) (k : Nat) :
  em >>> (k + 1) = (em >>> k).shiftRightOne
  := rfl

theorem mantissa_shiftRight (em : ExtendedMantissa) (k : Nat) :
  (em >>> k).mantissa = em.mantissa / 2 ^ k
  := by
  induction k with
  | zero => apply (Nat.div_one _).symm
  | succ k ih =>
    rw [shiftRight_succ, ExtendedMantissa.shiftRightOne, ih, Nat.div_div_eq_div_mul, Nat.pow_succ]

/-- If only zeros are dropped, then the mantissa stays exact. -/
theorem accuracy_shiftRight {m k : Nat} (h : 2 ^ k ∣ m) :
  (ExtendedMantissa.mk m false false >>> k).roundBit = false
    ∧ (ExtendedMantissa.mk m false false >>> k).stickyBit = false
  := by
  induction k with
  | zero => exact ⟨rfl, rfl⟩
  | succ k ih =>
    obtain ⟨hround, hsticky⟩ := ih (Nat.dvd_trans (Nat.pow_dvd_pow 2 (Nat.le_succ k)) h)
    rw [shiftRight_succ, ExtendedMantissa.shiftRightOne, hround, hsticky, mantissa_shiftRight]
    refine ⟨?_, rfl⟩
    obtain ⟨n, rfl⟩ := h
    rw [Nat.pow_succ, Nat.mul_assoc, Nat.mul_div_cancel_left _ (Nat.two_pow_pos k)]
    simp

/-- Rounding keeps a mantissa, or it adds one because something was dropped. -/
theorem roundedMantissa_cases (em : ExtendedMantissa) :
  em.roundedMantissa = em.mantissa
    ∨ em.roundedMantissa = em.mantissa + 1 ∧ (em.roundBit = true ∨ em.stickyBit = true)
  := by
  rcases em with ⟨m, _ | _, _ | _⟩
  · exact .inl rfl
  · exact .inl rfl
  · rcases Nat.mod_two_eq_zero_or_one m with h | h
    · exact .inl (congrArg (m + ·) h)
    · exact .inr ⟨congrArg (m + ·) h, .inl rfl⟩
  · exact .inr ⟨rfl, .inl rfl⟩

/-- The mantissa that is left if some bits are rounded away. -/
def rounded (m k : Nat) : Nat := (ExtendedMantissa.mk m false false >>> k).roundedMantissa

/-- Rounding does not fall below what is kept, and it adds less than one to the whole. -/
theorem rounded_bounds (m k : Nat) :
  m < (rounded m k + 1) * 2 ^ k ∧ rounded m k * 2 ^ k < m + 2 ^ k
  := by
  have hpos : 0 < 2 ^ k := Nat.two_pow_pos k
  have hfloor := mantissa_shiftRight (.mk m false false) k
  have hle : m / 2 ^ k * 2 ^ k ≤ m := Nat.div_mul_le_self m (2 ^ k)
  have hlt : m < (m / 2 ^ k + 1) * 2 ^ k := Nat.lt_mul_of_div_lt (Nat.lt_succ_self _) hpos
  rcases roundedMantissa_cases (ExtendedMantissa.mk m false false >>> k) with h | ⟨h, hbits⟩
  · rw [rounded, h, hfloor]
    exact ⟨hlt, Nat.lt_of_le_of_lt hle (Nat.lt_add_of_pos_right hpos)⟩
  · have hne : m / 2 ^ k * 2 ^ k ≠ m := by
      intro heq
      obtain ⟨hround, hsticky⟩ := accuracy_shiftRight ⟨m / 2 ^ k, by rw [Nat.mul_comm, heq]⟩
      rw [hround, hsticky] at hbits
      simp at hbits
    rw [rounded, h, hfloor]
    constructor
    · apply Nat.lt_of_lt_of_le hlt
      apply Nat.mul_le_mul_right
      apply Nat.le_succ
    · rw [Nat.add_mul, Nat.one_mul]
      apply Nat.add_lt_add_right (Nat.lt_of_le_of_ne hle hne) _

/-- Every whole number up to what is rounded is up to the result. -/
theorem le_rounded {m k p : Nat} (h : p * 2 ^ k ≤ m) :
  p ≤ rounded m k
  := by
  apply Nat.le_of_lt_succ
  apply Nat.lt_of_mul_lt_mul_right (a := 2 ^ k)
  apply Nat.lt_of_le_of_lt h (rounded_bounds m k).1

/-- Every whole number from what is rounded on is from the result on. -/
theorem rounded_le {m k p : Nat} (h : m ≤ p * 2 ^ k) :
  rounded m k ≤ p
  := by
  apply Nat.le_of_lt_succ
  apply Nat.lt_of_mul_lt_mul_right (a := 2 ^ k)
  rw [Nat.succ_mul]
  apply Nat.lt_of_lt_of_le (rounded_bounds m k).2 (Nat.add_le_add_right h _)

/-! ### Rounding to an exponent -/

/-- The value of a positive number as a multiple of the least one. -/
def scaled (m : Nat) (e : Int) : Nat := m * 2 ^ (e + 1074).toNat

/-- From the mantissa `m` with the exponent `e` there are `k` bits to drop, to get one of
53 bits with the exponent `t`. -/
structure Rounding (m : Nat) (e : Int) (k : Nat) (t : Int) : Prop where
  pos : 0 < m
  least : -1074 ≤ e
  exponent : e + k = t
  target : t = max (m.log2 + 1 + e - 53) (-1074)

namespace Rounding

variable {m : Nat} {e : Int} {k : Nat} {t : Int}

/-- No more than 53 bits are left. -/
theorem lt (h : Rounding m e k t) :
  m < 2 ^ (53 + k)
  := by
  have hexponent := h.exponent
  have htarget := h.target
  have hbits : m.log2 + 1 ≤ 53 + k := by omega
  apply Nat.lt_of_lt_of_le Nat.lt_log2_self
  apply Nat.pow_le_pow_right (by decide) hbits

/-- No fewer than 53 bits are left, unless the exponent is the least one and nothing is
dropped. -/
theorem full (h : Rounding m e k t) :
  2 ^ (52 + k) ≤ m ∨ t = -1074 ∧ k = 0
  := by
  have hexponent := h.exponent
  have htarget := h.target
  have hleast := h.least
  by_cases ht : t = -1074
  · right
    omega
  · left
    have hbits : 52 + k = m.log2 := by omega
    rw [hbits]
    apply Nat.log2_self_le (Nat.ne_of_gt h.pos)

/-- The rounded mantissa has 53 bits, or it is the next power of two. -/
theorem rounded_le (h : Rounding m e k t) :
  rounded m k ≤ 2 ^ 53
  := by
  apply Binary64.rounded_le
  rw [← Nat.pow_add]
  apply Nat.le_of_lt h.lt

/-- The rounded mantissa has 53 bits, or its exponent is the least one. -/
theorem full_rounded (h : Rounding m e k t) :
  0 < rounded m k ∧ (2 ^ 52 ≤ rounded m k ∨ t = -1074)
  := by
  rcases h.full with hfull | ⟨ht, rfl⟩
  · have hle : 2 ^ 52 ≤ rounded m k := by
      apply le_rounded
      rw [← Nat.pow_add]
      apply hfull
    exact ⟨Nat.lt_of_lt_of_le (by decide) hle, .inl hle⟩
  · refine ⟨?_, .inr ht⟩
    apply le_rounded
    rw [Nat.pow_zero, Nat.mul_one]
    apply h.pos

/-- The exponent of what is rounded is that of the result without the dropped bits. -/
theorem scaled_eq (h : Rounding m e k t) (p : Nat) :
  scaled p t = p * 2 ^ k * 2 ^ (e + 1074).toNat
  := by
  have hleast := h.least
  have hexponent := h.exponent
  have hsum : (t + 1074).toNat = k + (e + 1074).toNat := by omega
  rw [scaled, hsum, Nat.pow_add, Nat.mul_assoc]

/-- A number that is not greater than what is rounded is not greater than the result. -/
theorem le_size (h : Rounding m e k t) {p : Nat} {q : Int} (hp : Canonical p q)
    (hle : scaled p q ≤ scaled m e) :
  size p q ≤ size (rounded m k) t
  := by
  have hlt := hp.lt
  have hleast := hp.least
  have hfull := h.full_rounded
  rcases Int.lt_trichotomy q t with hqt | rfl | hqt
  · rw [size, size]
    omega
  · rw [h.scaled_eq, scaled] at hle
    have hround := le_rounded (Nat.le_of_mul_le_mul_right hle (Nat.two_pow_pos _))
    rw [size, size]
    omega
  · exfalso
    have hpfull : 2 ^ 52 ≤ p := by
      have := h.target
      have := hp.full
      omega
    have hup : 2 ^ 52 * 2 ^ (q + 1074).toNat ≤ scaled p q := Nat.mul_le_mul_right _ hpfull
    have hdown : scaled m e < 2 ^ (53 + k) * 2 ^ (e + 1074).toNat :=
      Nat.mul_lt_mul_of_pos_right h.lt (Nat.two_pow_pos _)
    have hpow := Nat.lt_of_le_of_lt (Nat.le_trans hup hle) hdown
    rw [← Nat.pow_add, ← Nat.pow_add, Nat.pow_lt_pow_iff_right (by decide)] at hpow
    have := h.exponent
    have := h.least
    omega

/-- A number that is not less than what is rounded is not less than the result. -/
theorem size_le (h : Rounding m e k t) {p : Nat} {q : Int} (hp : Canonical p q)
    (hle : scaled m e ≤ scaled p q) :
  size (rounded m k) t ≤ size p q
  := by
  have hplt := hp.lt
  have hpleast := hp.least
  have hpfull := hp.full
  have htop := h.rounded_le
  rcases Int.lt_trichotomy q t with hqt | rfl | hqt
  · exfalso
    have hfull : 2 ^ (52 + k) ≤ m := by
      have := h.full
      omega
    have hup : 2 ^ (52 + k) * 2 ^ (e + 1074).toNat ≤ scaled m e := Nat.mul_le_mul_right _ hfull
    have hdown : scaled p q < 2 ^ 53 * 2 ^ (q + 1074).toNat :=
      Nat.mul_lt_mul_of_pos_right hplt (Nat.two_pow_pos _)
    have hpow := Nat.lt_of_le_of_lt (Nat.le_trans hup hle) hdown
    rw [← Nat.pow_add, ← Nat.pow_add, Nat.pow_lt_pow_iff_right (by decide)] at hpow
    have := h.exponent
    have := h.least
    omega
  · rw [h.scaled_eq, scaled] at hle
    have hround := Binary64.rounded_le (Nat.le_of_mul_le_mul_right hle (Nat.two_pow_pos _))
    rw [size, size]
    omega
  · have ht : -1074 ≤ t := by
      have := h.target
      omega
    rw [size, size]
    omega

end Rounding

/-! ### Rounding a number -/

theorem targetExponent_eq (m : Nat) (e : Int) :
  Format.binary64.targetExponent (totalExponent m e) = max (m.log2 + 1 + e - 53) (-1074)
  := by
  have hbits : (Format.binary64.mantissaBits : Int) = 53 := by decide
  have hleast : Format.binary64.minExponent = -1074 := by decide
  rw [Format.targetExponent, totalExponent, hbits, hleast]

/-- The bits that are too many are dropped. -/
theorem shiftToTargetExponent_eq {m : Nat} {e : Int} {k : Nat}
    (hk : (max (m.log2 + 1 + e - 53) (-1074) - e).toNat = k) :
  shiftToTargetExponent Format.binary64 m e .exact
    = (ExtendedMantissa.mk m false false >>> k, e + k)
  := by
  rw [shiftToTargetExponent, targetExponent_eq, shiftToExponent, hk]
  rfl

/-- Rounding carries at most once, which does not change the place of the result. -/
theorem Rounding.roundWithAccuracy_eq {m : Nat} {e : Int} {k : Nat} {t : Int}
    (h : Rounding m e k t) (s : Sign) :
  ∃ m' e' hm', roundWithAccuracy Format.binary64 s m e .exact = .finite s m' e' hm'
    ∧ Canonical m' e' ∧ size m' e' = size (rounded m k) t
  := by
  have hfirst := shiftToTargetExponent_eq (m := m) (e := e) (k := k)
    (by have := h.exponent; have := h.target; omega)
  rw [h.exponent] at hfirst
  have hleast : -1074 ≤ t := by
    have := h.target
    omega
  obtain ⟨hpos, hfull⟩ := h.full_rounded
  have htop := h.rounded_le
  have hrounded : (ExtendedMantissa.mk m false false >>> k).roundedMantissa = rounded m k := rfl
  simp only [roundWithAccuracy, hfirst, hrounded]
  rcases Nat.lt_or_eq_of_le htop with hlt | heq
  · have hsecond := shiftToTargetExponent_eq (m := rounded m k) (e := t) (k := 0) (by
      have := (Nat.log2_lt (Nat.ne_of_gt hpos)).2 hlt
      omega)
    have hne : rounded m k / 2 ^ 0 ≠ 0 := by omega
    simp only [hsecond, mantissa_shiftRight]
    refine ⟨_, _, Nat.pos_of_ne_zero hne, dif_neg hne, ?_, ?_⟩
    · constructor <;> omega
    · rw [size, size]
      omega
  · have hsecond := shiftToTargetExponent_eq (m := rounded m k) (e := t) (k := 1) (by
      rw [heq, Nat.log2_two_pow]
      omega)
    have hne : rounded m k / 2 ^ 1 ≠ 0 := by omega
    simp only [hsecond, mantissa_shiftRight]
    refine ⟨_, _, Nat.pos_of_ne_zero hne, dif_neg hne, ?_, ?_⟩
    · constructor <;> omega
    · rw [size, size]
      omega

/-- Shifting a mantissa does not change its number of bits before the point. -/
theorem log2_mul_two_pow {m : Nat} (hm : 0 < m) (k : Nat) :
  (m * 2 ^ k).log2 = m.log2 + k
  := by
  have hne : m ≠ 0 := Nat.ne_of_gt hm
  rw [Nat.log2_eq_iff (Nat.mul_ne_zero hne (Nat.ne_of_gt (Nat.two_pow_pos k)))]
  constructor
  · rw [Nat.pow_add]
    apply Nat.mul_le_mul_right _ (Nat.log2_self_le hne)
  · rw [Nat.add_right_comm, Nat.pow_add]
    apply Nat.mul_lt_mul_of_pos_right Nat.lt_log2_self (Nat.two_pow_pos k)

/-- A positive number that is rounded keeps its order with every number that can be
represented. -/
theorem round_eq {m : Nat} {e : Int} (hm : 0 < m) (he : -1074 ≤ e) (s : Sign) :
  ∃ m' e' hm', UnpackedFloat.round Format.binary64 s m e = .finite s m' e' hm'
    ∧ Canonical m' e'
    ∧ ∀ {p q}, Canonical p q →
      (scaled p q ≤ scaled m e → size p q ≤ size m' e')
        ∧ (scaled m e ≤ scaled p q → size m' e' ≤ size p q)
  := by
  let t : Int := max (m.log2 + 1 + e - 53) (-1074)
  have ht : t = max (m.log2 + 1 + e - 53) (-1074) := rfl
  let k : Nat := (e - t).toNat
  have hk : k = (e - t).toNat := rfl
  have hrounding : Rounding (m * 2 ^ k) (e - k) (t - (e - k)).toNat t := by
    constructor
    case pos => apply Nat.mul_pos hm (Nat.two_pow_pos k)
    case least => omega
    case exponent => omega
    case target =>
      rw [log2_mul_two_pow hm]
      omega
  have hscaled : scaled (m * 2 ^ k) (e - k) = scaled m e := by
    have hsum : (e + 1074).toNat = k + (e - k + 1074).toNat := by omega
    rw [scaled, scaled, hsum, Nat.pow_add, Nat.mul_assoc]
  obtain ⟨m', e', hm', heq, hcanonical, hsize⟩ := hrounding.roundWithAccuracy_eq s
  refine ⟨m', e', hm', ?_, hcanonical, ?_⟩
  · rw [← heq, UnpackedFloat.round, targetExponent_eq, decreaseExponent, Nat.shiftLeft_eq]
  · intro p q hp
    rw [hsize, ← hscaled]
    exact ⟨hrounding.le_size hp, hrounding.size_le hp⟩

/-! ### Packing -/

theorem toNat_packComponents (s : Sign) (e : BitVec Format.binary64.exponentBits)
    (m : BitVec Format.binary64.mantissaBitsWithoutImplicit) :
  (packComponents Format.binary64 s e m).toNat
    = s.toBitVec.toNat * 2 ^ 63 + (e.toNat * 2 ^ 52 + m.toNat)
  := by
  rw [packComponents, BitVec.toNat_append, ← Nat.shiftLeft_add_eq_or_of_lt m.isLt,
    BitVec.toNat_append, ← Nat.shiftLeft_add_eq_or_of_lt e.isLt, Nat.shiftLeft_eq,
    Nat.shiftLeft_eq, Nat.add_mul, Nat.mul_assoc, ← Nat.pow_add, Nat.add_assoc]
  rfl

/-- The place of bits with a sign. -/
theorem bitsPlace_eq (s : Sign) {d : Nat} (hd : d < 2 ^ 63) :
  bitsPlace (s.toBitVec.toNat * 2 ^ 63 + d) = s.apply d
    ∧ distance (s.toBitVec.toNat * 2 ^ 63 + d) = d
  := by
  have hpositive : Sign.positive.toBitVec.toNat = 0 := rfl
  have hnegative : Sign.negative.toBitVec.toNat = 1 := rfl
  cases s with
  | positive =>
    rw [hpositive, bitsPlace, if_pos (by omega), distance, Sign.apply]
    omega
  | negative =>
    rw [hnegative, bitsPlace, if_neg (by omega), distance, Sign.apply]
    omega

/-- The place of a number with given bits. -/
theorem place_of_bits {u : UnpackedFloat} {s : Sign} {d : Nat} (hd : d ≤ 2047 * 2 ^ 52)
    (hbits : (UnpackedFloat.pack Format.binary64 u).toNat = s.toBitVec.toNat * 2 ^ 63 + d) :
  (Float.ofModel (Float.Model.pack u)).isNaN = false
    ∧ place (Float.ofModel (Float.Model.pack u)) = s.apply d
  := by
  have hnat : (Float.ofModel (Float.Model.pack u)).toBits.toNat
      = s.toBitVec.toNat * 2 ^ 63 + d := hbits
  obtain ⟨hplace, hdistance⟩ := bitsPlace_eq s (d := d) (by omega)
  constructor
  · rw [Bool.eq_false_iff, Ne, isNaN_iff, hnat, hdistance, infinitySize]
    omega
  · rw [place, hnat, hplace]

/-- A number is packed as infinity, or with its exponent if it has all bits, or without. -/
theorem pack_finite {m : Nat} (hm : 0 < m) (e : Int) (s : Sign) :
  UnpackedFloat.pack Format.binary64 (.finite s m e hm)
    = if 2 ^ 11 ≤ (e + 1075).toNat + 1 then packedInfinity Format.binary64 s
      else if m.log2 + 1 = 53 then
        packComponents Format.binary64 s (.ofNat _ (e + 1075).toNat) (.ofNat _ m)
      else packComponents Format.binary64 s 0#_ (.ofNat _ m)
  := by
  have hbias : (Format.binary64.exponentBias : Int)
      + Format.binary64.mantissaBitsWithoutImplicit = 1075 := by
    decide
  rw [UnpackedFloat.pack, Int.add_assoc, hbias]
  rfl

/-- The place of a packed number is that of the number, or that of infinity if the number
is too great. -/
theorem place_pack {m : Nat} {e : Int} (hm : 0 < m) (h : Canonical m e) (s : Sign) :
  (Float.ofModel (Float.Model.pack (.finite s m e hm))).isNaN = false
    ∧ place (Float.ofModel (Float.Model.pack (.finite s m e hm)))
      = s.apply (min (size m e) infinitySize)
  := by
  have hlt := h.lt
  have hleast := h.least
  have hfull := h.full
  have hpack := pack_finite hm e s
  by_cases hhuge : 2 ^ 11 ≤ (e + 1075).toNat + 1
  · rw [if_pos hhuge, packedInfinity] at hpack
    have hsize : min (size m e) infinitySize = (2047 * 2 ^ 52 : Nat) := by
      rw [size, infinitySize]
      omega
    rw [hsize]
    apply place_of_bits (Nat.le_refl _)
    rw [hpack, toNat_packComponents]
    rfl
  · have hsize : size m e < infinitySize := by
      rw [size, infinitySize]
      omega
    rw [if_neg hhuge] at hpack
    rw [Int.min_eq_left (Int.le_of_lt hsize)]
    by_cases hnormal : m.log2 + 1 = 53
    · rw [if_pos hnormal] at hpack
      have hge : 2 ^ 52 ≤ m := (Nat.le_log2 (Nat.ne_of_gt hm)).1 (by omega)
      have hplace : size m e = ((e + 1075).toNat * 2 ^ 52 + (m - 2 ^ 52) : Nat) := by
        rw [size]
        omega
      rw [hplace]
      apply place_of_bits (by omega)
      have hexponent : (e + 1075).toNat % 2 ^ Format.binary64.exponentBits
          = (e + 1075).toNat :=
        Nat.mod_eq_of_lt (show _ < 2 ^ 11 by omega)
      have hmantissa : m % 2 ^ Format.binary64.mantissaBitsWithoutImplicit = m - 2 ^ 52 :=
        show m % 2 ^ 52 = _ by omega
      rw [hpack, toNat_packComponents, BitVec.toNat_ofNat, BitVec.toNat_ofNat, hexponent,
        hmantissa]
    · rw [if_neg hnormal] at hpack
      have hlow : m < 2 ^ 52 := by
        have hbits : m.log2 < 53 := (Nat.log2_lt (Nat.ne_of_gt hm)).2 hlt
        apply (Nat.log2_lt (Nat.ne_of_gt hm)).1 (by omega)
      have hplace : size m e = (m : Nat) := by
        rw [size]
        omega
      rw [hplace]
      apply place_of_bits (by omega)
      rw [hpack, toNat_packComponents, BitVec.toNat_ofNat, BitVec.toNat_ofNat, Nat.zero_mod,
        Nat.zero_mul, Nat.zero_add, Nat.mod_eq_of_lt hlow]

/-! ### Adding a positive number -/

/-- A positive finite number is unpacked to a canonical one. -/
theorem unpack_of_pos {x : Float} (hfinite : x.isFinite = true) (hpos : 0 < x) :
  ∃ m e hm, x.toModel.unpack = .finite .positive m e hm ∧ Canonical m e
  := by
  have hx := unpacks_float x
  obtain ⟨-, hnan, hplace⟩ := lt_iff.1 hpos
  have hzero : place (0 : Float) = 0 := by decide +kernel
  have hunpacked := hx.place hnan
  have hcanonical := hx.canonical
  have hunpackedFinite : x.toModel.unpack.isFinite = true := hfinite
  rw [hzero, place, ← hunpacked] at hplace
  cases h : x.toModel.unpack with
  | infinity s => rw [h] at hunpackedFinite; cases hunpackedFinite
  | notANumber => rw [h] at hunpackedFinite; cases hunpackedFinite
  | zero s => rw [h] at hplace; exact absurd hplace (Int.lt_irrefl 0)
  | finite s m e hm =>
    rw [h] at hplace hcanonical
    cases s with
    | positive => exact ⟨m, e, hm, rfl, hcanonical.1⟩
    | negative =>
      have := hcanonical.1.size_pos
      rw [unpackedPlace, Sign.apply] at hplace
      omega

theorem scaled_shiftLeft (m : Nat) {e c : Int} (hc : -1074 ≤ c) (hce : c ≤ e) :
  scaled (m <<< (e - c).toNat) c = scaled m e
  := by
  have hsum : (e + 1074).toNat = (e - c).toNat + (c + 1074).toNat := by omega
  rw [scaled, scaled, hsum, Nat.shiftLeft_eq, Nat.pow_add, Nat.mul_assoc]

/-- A number is normalized by its sign. -/
theorem normalize_eq (a : Int) (c : Int) :
  (0 < a → UnpackedFloat.normalize Format.binary64 a c .positive
      = UnpackedFloat.round Format.binary64 .positive a.toNat c)
    ∧ (a = 0 → UnpackedFloat.normalize Format.binary64 a c .positive = .zero .positive)
    ∧ (a < 0 → UnpackedFloat.normalize Format.binary64 a c .positive
      = UnpackedFloat.round Format.binary64 .negative (-a).toNat c)
  := by
  refine ⟨?_, ?_, ?_⟩
  · intro h
    rw [UnpackedFloat.normalize, Int.compare_eq_gt.2 h]
  · intro h
    rw [UnpackedFloat.normalize, Int.compare_eq_eq.2 h]
  · intro h
    rw [UnpackedFloat.normalize, Int.compare_eq_lt.2 h]

/-- A positive number that is rounded and packed keeps its sign and its order with every
number that can be represented. -/
theorem place_round {m : Nat} {e : Int} (hm : 0 < m) (he : -1074 ≤ e) (s : Sign) :
  let x := Float.ofModel (Float.Model.pack (UnpackedFloat.round Format.binary64 s m e))
  ∃ d, 0 < d ∧ x.isNaN = false ∧ place x = s.apply d
    ∧ ∀ {p q}, Canonical p q → size p q < infinitySize →
      (scaled p q ≤ scaled m e → size p q ≤ d) ∧ (scaled m e ≤ scaled p q → d ≤ size p q)
  := by
  obtain ⟨m', e', hm', hround, hcanonical, horder⟩ := round_eq hm he s
  obtain ⟨hnan, hplace⟩ := place_pack hm' hcanonical s
  have hpos := hcanonical.size_pos
  have hinfinity : 0 < infinitySize := by decide
  rw [hround]
  refine ⟨min (size m' e') infinitySize, by omega, hnan, hplace, ?_⟩
  intro p q hp hlt
  obtain ⟨hle, hge⟩ := horder hp
  constructor
  · intro h
    have := hle h
    omega
  · intro h
    have := hge h
    omega

/-- A positive number is added to a finite one. -/
theorem le_place_add {m n : Nat} {d e : Int} (hm : 0 < m) (hn : 0 < n) (h : Canonical m d)
    (hlt : size m d < infinitySize) (h' : Canonical n e) (s : Sign) :
  let x := Float.ofModel (Float.Model.pack
    (UnpackedFloat.add Format.binary64 (.finite s m d hm) (.finite .positive n e hn)))
  x.isNaN = false ∧ s.apply (size m d) ≤ place x
  := by
  have hleast := h.least
  have hleast' := h'.least
  have hpos := h.size_pos
  obtain ⟨c, hc⟩ : ∃ c, c = min d e := ⟨_, rfl⟩
  obtain ⟨a, hm'⟩ : ∃ a, a = m <<< (d - c).toNat := ⟨_, rfl⟩
  obtain ⟨b, hn'⟩ : ∃ b, b = n <<< (e - c).toNat := ⟨_, rfl⟩
  have ha : scaled a c = scaled m d := by
    rw [hm']
    apply scaled_shiftLeft m (by omega) (by omega)
  have hbpos : 0 < b := by
    rw [hn', Nat.shiftLeft_eq]
    apply Nat.mul_pos hn (Nat.two_pow_pos _)
  have hadd : UnpackedFloat.add Format.binary64 (.finite s m d hm) (.finite .positive n e hn)
      = UnpackedFloat.normalize Format.binary64 (s.apply a + b) c .positive := by
    rw [hm', hn', hc]
    rfl
  obtain ⟨hpositive, hzero, hnegative⟩ := normalize_eq (s.apply a + b) c
  rw [hadd]
  cases s with
  | positive =>
    simp only [Sign.apply] at *
    rw [hpositive (by omega)]
    obtain ⟨p, -, hnan, hplace, horder⟩ :=
      place_round (m := ((a : Int) + b).toNat) (e := c) (by omega) (by omega) .positive
    have hle : scaled m d ≤ scaled ((a : Int) + b).toNat c := by
      rw [← ha]
      apply Nat.mul_le_mul_right _ (by omega)
    rw [hplace, Sign.apply]
    use hnan, (horder h hlt).1 hle
  | negative =>
    simp only [Sign.apply] at *
    rcases Int.lt_trichotomy (-(a : Int) + b) 0 with hsum | hsum | hsum
    · rw [hnegative hsum]
      obtain ⟨p, -, hnan, hplace, horder⟩ :=
        place_round (m := (-(-(a : Int) + b)).toNat) (e := c) (by omega) (by omega) .negative
      have hle : scaled (-(-(a : Int) + b)).toNat c ≤ scaled m d := by
        rw [← ha]
        apply Nat.mul_le_mul_right _ (by omega)
      rw [hplace, Sign.apply]
      use hnan, Int.neg_le_neg ((horder h hlt).2 hle)
    · rw [hzero hsum]
      obtain ⟨hnan, hplace⟩ :=
        place_of_bits (u := .zero .positive) (s := .positive) (d := 0) (by decide) rfl
      rw [hplace, Sign.apply]
      use hnan, by omega
    · rw [hpositive hsum]
      obtain ⟨p, hp, hnan, hplace, -⟩ :=
        place_round (m := (-(a : Int) + b).toNat) (e := c) (by omega) (by omega) .positive
      rw [hplace, Sign.apply]
      use hnan, by omega

/-- Time does not go back when a positive number is added to it. -/
theorem le_add {t dt : Float} (ht : t.isNaN = false) (hfinite : dt.isFinite = true)
    (hdt : 0 < dt) :
  t ≤ t + dt
  := by
  have hu := unpacks_float t
  obtain ⟨n, e, hn, hd, hcanonical⟩ := unpack_of_pos hfinite hdt
  have hsum : t + dt = Float.ofModel (Float.Model.pack
      (UnpackedFloat.add Format.binary64 t.toModel.unpack (.finite .positive n e hn))) := by
    rw [← hd]
    rfl
  have hplace := hu.place ht
  have hunpackedNaN : t.toModel.unpack.isNaN = false := ht
  rw [le_iff, hsum, place, ← hplace]
  have hu' := hu.canonical
  cases h : t.toModel.unpack with
  | notANumber => rw [h] at hunpackedNaN; cases hunpackedNaN
  | infinity s =>
    have hbits : (UnpackedFloat.pack Format.binary64 (.infinity s)).toNat
        = s.toBitVec.toNat * 2 ^ 63 + 2047 * 2 ^ 52 := by
      rw [UnpackedFloat.pack, packedInfinity, toNat_packComponents]
      rfl
    obtain ⟨hnan, hinfinity⟩ := place_of_bits (by omega) hbits
    use ht, hnan
    apply Int.le_of_eq hinfinity.symm
  | zero s =>
    obtain ⟨hnan, hpack⟩ := place_pack hn hcanonical .positive
    have hpos := hcanonical.size_pos
    have hinfinity : 0 < infinitySize := by decide
    use ht, hnan
    apply Int.le_trans _ (Int.le_of_eq hpack.symm)
    rw [unpackedPlace, Sign.apply]
    omega
  | finite s m d hm =>
    rw [h] at hu'
    obtain ⟨hnan, hle⟩ := le_place_add hm hn hu'.1 hu'.2 hcanonical s
    use ht, hnan, hle

end Servo.Binary64
