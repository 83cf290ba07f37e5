import Mathlib
import Servo.Simulation.Schedule

/-!
# The order of binary64 numbers

Apart from what is not a number, the bits of a binary64 number say where it stands among all
others: `place` is an integer that grows with the number.  `le_iff` and `lt_iff` reduce the
comparisons to the order of the places, and `le_of_rank_le` says that the total order of
moments refines the order of their times.
-/

namespace Servo.Binary64

open Float.Model Float.Model.UnpackedFloat

/-! ### Canonical numbers -/

/-- A mantissa with an exponent, as they are unpacked: the mantissa has 53 bits, or fewer if
the exponent is the least one. -/
structure Canonical (m : Nat) (e : Int) : Prop where
  pos : 0 < m
  lt : m < 2 ^ 53
  least : -1074 ≤ e
  full : 2 ^ 52 ≤ m ∨ e = -1074

/-- The place of a positive number among all of them. -/
def size (m : Nat) (e : Int) : Int := (e + 1074) * 2 ^ 52 + m

/-- The place of infinity. -/
def infinitySize : Int := 2047 * 2 ^ 52

/-- The place of an unpacked number, which grows with the number. -/
def unpackedPlace : UnpackedFloat → Int
  | .infinity s => s.apply infinitySize
  | .notANumber => 0
  | .zero _ => 0
  | .finite s m e _ => s.apply (size m e)

/-- A finite number is canonical and less than infinity. -/
def IsCanonical : UnpackedFloat → Prop
  | .finite _ m e _ => Canonical m e ∧ size m e < infinitySize
  | _ => True

@[grind →]
theorem Canonical.size_pos {m : Nat} {e : Int} (h : Canonical m e) :
  0 < size m e
  := by
  have hpos := h.pos
  have hleast := h.least
  rw [size]
  omega

/-- Numbers are compared first by their exponents and then by their mantissas. -/
theorem Canonical.compare_size {m m' : Nat} {e e' : Int} (h : Canonical m e)
    (h' : Canonical m' e') :
  (compare e e').then (compare m m') = compare (size m e) (size m' e')
  := by
  have hlt := h.lt
  have hleast := h.least
  have hfull := h.full
  have hlt' := h'.lt
  have hleast' := h'.least
  have hfull' := h'.full
  rcases Int.lt_trichotomy e e' with he | rfl | he
  · rw [Int.compare_eq_lt.2 he]
    apply Eq.symm
    apply Int.compare_eq_lt.2
    rw [size, size]
    omega
  · rw [Int.compare_eq_eq.2 rfl, Ordering.then]
    rcases Nat.lt_trichotomy m m' with hm | rfl | hm
    · rw [Nat.compare_eq_lt.2 hm, eq_comm]
      apply Int.compare_eq_lt.2
      rw [size, size]
      omega
    · rw [Nat.compare_eq_eq.2 rfl, Int.compare_eq_eq.2 rfl]
    · rw [Nat.compare_eq_gt.2 hm, eq_comm]
      apply Int.compare_eq_gt.2
      rw [size, size]
      omega
  · rw [Int.compare_eq_gt.2 he]
    apply Eq.symm
    apply Int.compare_eq_gt.2
    rw [size, size]
    omega

/-- What is not a number is not comparable. -/
theorem compare_of_isNaN {x y : UnpackedFloat} (h : x.isNaN = true ∨ y.isNaN = true) :
  x.compare y = none
  := by
  rcases x with (_ | _) | _ | s | ⟨_ | _, m, e, hm⟩ <;>
    rcases y with (_ | _) | _ | s' | ⟨_ | _, m', e', hm'⟩ <;>
    first
      | rfl
      | simp [UnpackedFloat.isNaN] at h

/-- The comparison of canonical numbers is that of their places. -/
theorem compare_eq {x y : UnpackedFloat} (hx : IsCanonical x) (hy : IsCanonical y)
    (hnx : x.isNaN = false) (hny : y.isNaN = false) :
  x.compare y = some (compare (unpackedPlace x) (unpackedPlace y))
  := by
  have hinfinity : 0 < infinitySize := by decide
  have hless : ∀ {a b : Int}, a < b → some Ordering.lt = some (compare a b) :=
    fun h => congrArg some (Int.compare_eq_lt.2 h).symm
  have hgreater : ∀ {a b : Int}, b < a → some Ordering.gt = some (compare a b) :=
    fun h => congrArg some (Int.compare_eq_gt.2 h).symm
  rcases x with (_ | _) | _ | s | ⟨_ | _, m, e, hm⟩ <;>
    rcases y with (_ | _) | _ | s' | ⟨_ | _, m', e', hm'⟩
  case finite.negative.finite.negative =>
    apply congrArg some
    rw [hx.1.compare_size hy.1, Int.compare_swap]
    simp only [unpackedPlace, Sign.apply, compare, compareOfLessAndEq]
    grind
  case finite.positive.finite.positive => exact congrArg some (hx.1.compare_size hy.1)
  all_goals
    first
      | rfl
      | (cases hnx; done)
      | (cases hny; done)
      | (apply hless; grind [IsCanonical, unpackedPlace, Sign.apply])
      | (apply hgreater; grind [IsCanonical, unpackedPlace, Sign.apply])

/-! ### Bits -/

theorem toNat_unpackExponent (b : BitVec Format.binary64.numBits) :
  (unpackExponent b).toNat = b.toNat / 2 ^ 52 % 2 ^ 11
  := by
  rw [unpackExponent, BitVec.toNat_cast, BitVec.extractLsb_toNat, Nat.shiftRight_eq_div_pow]
  rfl

theorem toNat_unpackMantissa (b : BitVec Format.binary64.numBits) :
  (unpackMantissa b).toNat = b.toNat % 2 ^ 52
  := by
  rw [unpackMantissa, BitVec.toNat_cast, BitVec.extractLsb_toNat, Nat.shiftRight_zero]
  rfl

theorem toNat_unpackSign (b : BitVec Format.binary64.numBits) :
  (unpackSign b).toNat = b.toNat / 2 ^ 63 % 2
  := by
  rw [unpackSign, BitVec.toNat_cast, BitVec.extractLsb_toNat, Nat.shiftRight_eq_div_pow]
  rfl

/-- The bits of a sign tell whether it is positive. -/
theorem ofBitVec_unpackSign (b : BitVec Format.binary64.numBits) :
  Sign.ofBitVec (unpackSign b) = if b.toNat < 2 ^ 63 then .positive else .negative
  := by
  have hb : b.toNat < 2 ^ 64 := b.isLt
  have hzero : unpackSign b = 0#1 ↔ b.toNat < 2 ^ 63 := by
    rw [← BitVec.toNat_inj, toNat_unpackSign, BitVec.toNat_ofNat]
    omega
  simp only [Sign.ofBitVec, hzero]

theorem apply_sign (p : Prop) [Decidable p] (n : Int) :
  (if p then Sign.positive else .negative).apply n = if p then n else -n
  := by
  split <;> rfl

/-- The distance of some bits from those of zero with the same sign. -/
def distance (b : Nat) : Int := b % 2 ^ 63

/-- The place of some bits among all of them. -/
def bitsPlace (b : Nat) : Int := if b < 2 ^ 63 then distance b else -distance b

/-- What bits are unpacked to is known by their distance from those of zero. -/
structure Unpacks (b : Nat) (x : UnpackedFloat) : Prop where
  canonical : IsCanonical x
  isNaN : x.isNaN = decide (infinitySize < distance b)
  isFinite : x.isFinite = decide (distance b < infinitySize)
  place : x.isNaN = false → unpackedPlace x = bitsPlace b

/-- Bits at the distance of infinity are unpacked to infinity. -/
theorem Unpacks.infinity {b : Nat} (h : distance b = infinitySize) :
  Unpacks b (.infinity (if b < 2 ^ 63 then .positive else .negative))
  := by
  constructor
  case canonical => trivial
  case isNaN =>
    show false = _
    rw [eq_comm, decide_eq_false_iff_not, h]
    apply Int.lt_irrefl
  case isFinite =>
    show false = _
    rw [eq_comm, decide_eq_false_iff_not, h]
    apply Int.lt_irrefl
  case place =>
    intro _
    rw [unpackedPlace, apply_sign, bitsPlace, h]

/-- Bits farther away than those of infinity are unpacked to what is not a number. -/
theorem Unpacks.notANumber {b : Nat} (h : infinitySize < distance b) :
  Unpacks b .notANumber
  := by
  constructor
  case canonical => trivial
  case isNaN =>
    show true = _
    rw [eq_comm, decide_eq_true_iff]
    apply h
  case isFinite =>
    show false = _
    rw [eq_comm, decide_eq_false_iff_not]
    omega
  case place => nofun

/-- Bits at no distance are unpacked to zero. -/
theorem Unpacks.zero {b : Nat} (h : distance b = 0) (s : Sign) :
  Unpacks b (.zero s)
  := by
  constructor
  case canonical => trivial
  case isNaN =>
    show false = _
    rw [h]
    rfl
  case isFinite =>
    show true = _
    rw [h]
    rfl
  case place =>
    intro _
    rw [unpackedPlace, bitsPlace, h]
    split <;> rfl

/-- Bits are unpacked to a finite number of their distance. -/
theorem Unpacks.finite {b m : Nat} {e : Int} (hm : 0 < m) (h : Canonical m e)
    (hsize : size m e = distance b) (hlt : distance b < infinitySize) :
  Unpacks b (.finite (if b < 2 ^ 63 then .positive else .negative) m e hm)
  := by
  constructor
  case canonical =>
    rw [← hsize] at hlt
    use h, hlt
  case isNaN =>
    show false = _
    rw [eq_comm, decide_eq_false_iff_not]
    omega
  case isFinite =>
    show true = _
    rw [eq_comm, decide_eq_true_iff]
    apply hlt
  case place =>
    intro _
    rw [unpackedPlace, apply_sign, bitsPlace, hsize]

/-- What bits are unpacked to. -/
theorem unpacks (b : BitVec Format.binary64.numBits) :
  Unpacks b.toNat (UnpackedFloat.unpack Format.binary64 b)
  := by
  have hb : b.toNat < 2 ^ 64 := b.isLt
  have hones : unpackExponent b = (-1#_) ↔ b.toNat / 2 ^ 52 % 2 ^ 11 = 2047 := by
    rw [← BitVec.toNat_inj, toNat_unpackExponent]
    rfl
  have hzeros : unpackExponent b = 0#_ ↔ b.toNat / 2 ^ 52 % 2 ^ 11 = 0 := by
    rw [← BitVec.toNat_inj, toNat_unpackExponent]
    rfl
  have hempty : unpackMantissa b = 0#_ ↔ b.toNat % 2 ^ 52 = 0 := by
    rw [← BitVec.toNat_inj, toNat_unpackMantissa]
    rfl
  have hbias : (Format.binary64.exponentBias : Int)
      + Format.binary64.mantissaBitsWithoutImplicit = 1075 := by
    decide
  have hfull : (1#1 ++ unpackMantissa b).toNat = 2 ^ 52 + b.toNat % 2 ^ 52 := by
    have hlt := (unpackMantissa b).isLt
    rw [BitVec.toNat_append, ← Nat.shiftLeft_add_eq_or_of_lt hlt, toNat_unpackMantissa]
    rfl
  have hdistance : distance b.toNat
      = (b.toNat / 2 ^ 52 % 2 ^ 11 : Nat) * 2 ^ 52 + (b.toNat % 2 ^ 52 : Nat) := by
    rw [distance]
    omega
  have hinfinity : infinitySize = 2047 * 2 ^ 52 := rfl
  simp only [UnpackedFloat.unpack, hones, hzeros, hempty, hbias, ofBitVec_unpackSign,
    toNat_unpackExponent, toNat_unpackMantissa, hfull]
  split
  next he =>
    split
    next hm =>
      apply Unpacks.infinity
      omega
    next hm =>
      apply Unpacks.notANumber
      omega
  next he =>
    split
    next hzero =>
      split
      next hm =>
        apply Unpacks.zero
        omega
      next hm =>
        apply Unpacks.finite
        · constructor <;> omega
        · rw [size]
          omega
        · omega
    next hnonzero =>
      apply Unpacks.finite
      · constructor <;> omega
      · rw [size]
        omega
      · omega

/-! ### Comparisons -/

/-- The place of a number among all of them; it grows with the number. -/
def place (x : Float) : Int := bitsPlace x.toBits.toNat

/-- A number is unpacked from its bits. -/
theorem unpacks_float (x : Float) :
  Unpacks x.toBits.toNat x.toModel.unpack
  := unpacks x.toModel.toBits.toBitVec

/-- The bits tell what is not a number. -/
theorem isNaN_iff {x : Float} :
  x.isNaN = true ↔ infinitySize < distance x.toBits.toNat
  := by
  have h : x.isNaN = _ := (unpacks_float x).isNaN
  rw [h, decide_eq_true_iff]

/-- The bits tell which numbers are finite. -/
theorem isFinite_iff {x : Float} :
  x.isFinite = true ↔ distance x.toBits.toNat < infinitySize
  := by
  have h : x.isFinite = _ := (unpacks_float x).isFinite
  rw [h, decide_eq_true_iff]

/-- The comparison of numbers is that of their places. -/
theorem compare_float {x y : Float} (hx : x.isNaN = false) (hy : y.isNaN = false) :
  x.toModel.compare y.toModel = some (compare (place x) (place y))
  := by
  have hux := unpacks_float x
  have huy := unpacks_float y
  rw [place, place, ← hux.place hx, ← huy.place hy]
  apply compare_eq hux.canonical huy.canonical hx hy

theorem compare_float_of_isNaN {x y : Float} (h : x.isNaN = true ∨ y.isNaN = true) :
  x.toModel.compare y.toModel = none
  := compare_of_isNaN h

/-- Numbers are ordered as their places are. -/
theorem le_iff {x y : Float} :
  x ≤ y ↔ x.isNaN = false ∧ y.isNaN = false ∧ place x ≤ place y
  := by
  have hle : x ≤ y ↔ (x.toModel.compare y.toModel).any (·.isLE) = true := decide_eq_true_iff
  rw [hle]
  cases hx : x.isNaN with
  | true => simp [compare_float_of_isNaN (.inl hx)]
  | false =>
    cases hy : y.isNaN with
    | true => simp [compare_float_of_isNaN (.inr hy)]
    | false => simp [compare_float hx hy, Int.isLE_compare]

/-- Numbers are strictly ordered as their places are. -/
theorem lt_iff {x y : Float} :
  x < y ↔ x.isNaN = false ∧ y.isNaN = false ∧ place x < place y
  := by
  have hlt : x < y ↔ (x.toModel.compare y.toModel == some .lt) = true := decide_eq_true_iff
  rw [hlt]
  cases hx : x.isNaN with
  | true => simp [compare_float_of_isNaN (.inl hx)]
  | false =>
    cases hy : y.isNaN with
    | true => simp [compare_float_of_isNaN (.inr hy)]
    | false => simp [compare_float hx hy, Int.compare_eq_lt]

/-- Numbers are equal if they have the same place; those are one number or the two zeros. -/
theorem beq_iff {x y : Float} :
  (x == y) = true ↔ x.isNaN = false ∧ y.isNaN = false ∧ place x = place y
  := by
  have hbeq : (x == y) = (x.toModel.compare y.toModel == some .eq) := rfl
  rw [hbeq]
  cases hx : x.isNaN with
  | true => simp [compare_float_of_isNaN (.inl hx)]
  | false =>
    cases hy : y.isNaN with
    | true => simp [compare_float_of_isNaN (.inr hy)]
    | false => simp [compare_float hx hy]

theorem le_trans {x y z : Float} (hxy : x ≤ y) (hyz : y ≤ z) :
  x ≤ z
  := by
  obtain ⟨hx, -, hplace⟩ := le_iff.1 hxy
  obtain ⟨-, hz, hplace'⟩ := le_iff.1 hyz
  apply le_iff.2 ⟨hx, hz, Int.le_trans hplace hplace'⟩

theorem le_refl {x : Float} (hx : x.isNaN = false) :
  x ≤ x
  := le_iff.2 ⟨hx, hx, Int.le_refl _⟩

theorem not_lt_of_le {x y : Float} (h : x ≤ y) :
  ¬ y < x
  := by
  intro hlt
  apply Int.not_lt.2 (le_iff.1 h).2.2 (lt_iff.1 hlt).2.2

theorem not_le_iff {x y : Float} :
  ¬ x ≤ y ↔ y < x ∨ x.isNaN = true ∨ y.isNaN = true
  := by
  rw [le_iff, lt_iff]
  cases x.isNaN <;> cases y.isNaN <;> simp

theorem le_of_not_lt {x y : Float} (hx : x.isNaN = false) (hy : y.isNaN = false)
    (h : ¬ x < y) :
  y ≤ x
  := by
  have hplace : ¬ place x < place y := fun hlt => h (lt_iff.2 ⟨hx, hy, hlt⟩)
  apply le_iff.2 ⟨hy, hx, Int.not_lt.1 hplace⟩

theorem isNaN_of_isFinite {x : Float} (h : x.isFinite = true) :
  x.isNaN = false
  := by
  have hlt := isFinite_iff.1 h
  rw [Bool.eq_false_iff, Ne, isNaN_iff]
  omega

/-! ### The total order of moments -/

open Simulation

/-- The two zeros have one place, but the negative one comes first in the total order. -/
theorem place_eq_rank (t : Float) :
  place t = if 0 ≤ (Moment.time t).rank then (Moment.time t).rank
    else (Moment.time t).rank + 1
  := by
  have hbits : t.toBits.toNat < 2 ^ 64 := t.toBits.toNat_lt
  have hmax : Int64.maxValue.toInt = 2 ^ 63 - 1 := by decide
  rw [place, bitsPlace, distance, Moment.rank, hmax]
  grind

/-- Moments in their total order have their times in order. -/
theorem le_of_rank_le {s t now : Float} (hrank : (Moment.time s).rank ≤ (Moment.time t).rank)
    (hs : s.isNaN = false) (ht : t ≤ now) :
  s ≤ now
  := by
  obtain ⟨ht, hnow, hplace⟩ := le_iff.1 ht
  have hst : place s ≤ place t := by
    rw [place_eq_rank, place_eq_rank]
    grind
  apply le_iff.2 ⟨hs, hnow, Int.le_trans hst hplace⟩

end Servo.Binary64
