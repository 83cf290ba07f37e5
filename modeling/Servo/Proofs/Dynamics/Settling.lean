import Mathlib.Algebra.Order.Field.Basic
import Mathlib.Algebra.Order.Field.Rat
import Mathlib.Tactic.FieldSimp
import Mathlib.Tactic.Linarith
import Mathlib.Tactic.Ring
import Servo.Dynamics

/-!
# A joint under a constant force settles

Over exact numbers a step of `Dynamics.advance` is an affine map of the velocity that fixes
`settling = force / damping`: it multiplies the distance to that velocity by `gain`
(`advance_sub_settling`), so that after `n` steps the distance was multiplied by `gain ^ n`
(`velocityAfter_sub_settling`).  The distance shrinks as long as the step is shorter than twice
`inertia / damping`, and keeps its sign as long as it is not longer than `inertia / damping`
(`settles`).
-/

namespace Servo.Dynamics

/-! ### One step -/

section Field

variable {K : Type} [Field K]

/-- The velocity at which the damping balances a force. -/
def settling (d : Dynamics K) (force : K) : K := force / d.damping

/-- What a step multiplies the distance to the settling velocity with. -/
def gain (d : Dynamics K) (dt : K) : K := 1 - d.damping * dt / d.inertia

/-- The velocity after `n` steps under a constant force. -/
def velocityAfter (d : Dynamics K) (force dt velocity : K) : (n : Nat) → K
  | 0 => velocity
  | n + 1 => d.advance (d.velocityAfter force dt velocity n) force dt

/-- A step multiplies the distance to the settling velocity. -/
theorem advance_sub_settling {d : Dynamics K} (hm : d.inertia ≠ 0) (hc : d.damping ≠ 0)
    (velocity force dt : K) :
  d.advance velocity force dt - d.settling force =
    d.gain dt * (velocity - d.settling force)
  := by
  rw [advance, accel, settling, gain]
  field_simp
  ring

/-- The settling velocity is kept. -/
theorem advance_settling {d : Dynamics K} (hm : d.inertia ≠ 0) (hc : d.damping ≠ 0)
    (force dt : K) :
  d.advance (d.settling force) force dt = d.settling force
  := by
  rw [← sub_eq_zero, advance_sub_settling hm hc, sub_self, mul_zero]

/-- `n` steps multiply the distance to the settling velocity `n` times. -/
theorem velocityAfter_sub_settling {d : Dynamics K} (hm : d.inertia ≠ 0) (hc : d.damping ≠ 0)
    (force dt velocity : K) (n : Nat) :
  d.velocityAfter force dt velocity n - d.settling force =
    d.gain dt ^ n * (velocity - d.settling force)
  := by
  induction n with
  | zero => rw [velocityAfter, pow_zero, one_mul]
  | succ n ih => rw [velocityAfter, advance_sub_settling hm hc, ih, pow_succ', mul_assoc]

end Field

/-! ### Which steps settle -/

section OrderedField

variable {K : Type} [Field K] [LinearOrder K] [IsStrictOrderedRing K]
variable {d : Dynamics K} {dt : K}

/-- Short steps shrink the distance. -/
theorem abs_gain_lt_one (hm : 0 < d.inertia) (hc : 0 < d.damping) (hdt : 0 < dt)
    (hshort : dt < 2 * d.inertia / d.damping) :
  |d.gain dt| < 1
  := by
  have hpos : 0 < d.damping * dt / d.inertia := div_pos (mul_pos hc hdt) hm
  have hlt : d.damping * dt / d.inertia < 2 := by
    rw [div_lt_iff₀ hm, mul_comm]
    apply (lt_div_iff₀ hc).1 hshort
  rw [gain, abs_lt]
  constructor <;> linarith

theorem gain_nonneg (hm : 0 < d.inertia) (hc : 0 < d.damping)
    (hshort : dt ≤ d.inertia / d.damping) :
  0 ≤ d.gain dt
  := by
  have hle : d.damping * dt / d.inertia ≤ 1 := by
    rw [div_le_one hm, mul_comm]
    apply (le_div_iff₀ hc).1 hshort
  apply sub_nonneg.2 hle

/-- A step that shrinks distances brings every other velocity closer to the settling one. -/
theorem abs_advance_sub_settling_lt (hm : d.inertia ≠ 0) (hc : d.damping ≠ 0)
    (hgain : |d.gain dt| < 1) {velocity force : K} (hne : velocity ≠ d.settling force) :
  |d.advance velocity force dt - d.settling force| < |velocity - d.settling force|
  := by
  have hpos : 0 < |velocity - d.settling force| := abs_pos.2 (sub_ne_zero.2 hne)
  calc |d.advance velocity force dt - d.settling force|
      = |d.gain dt| * |velocity - d.settling force| := by
        rw [advance_sub_settling hm hc, abs_mul]
    _ < 1 * |velocity - d.settling force| := mul_lt_mul_of_pos_right hgain hpos
    _ = |velocity - d.settling force| := one_mul _

/-- Where a step keeps the sign of the distance, no velocity gets past the settling one. -/
theorem velocityAfter_same_side (hm : d.inertia ≠ 0) (hc : d.damping ≠ 0)
    (hgain : 0 ≤ d.gain dt) (force velocity : K) (n : Nat) :
  (velocity ≤ d.settling force → d.velocityAfter force dt velocity n ≤ d.settling force)
    ∧ (d.settling force ≤ velocity → d.settling force ≤ d.velocityAfter force dt velocity n)
  := by
  have hpow : 0 ≤ d.gain dt ^ n := pow_nonneg hgain n
  constructor
  · intro hbelow
    rw [← sub_nonpos, velocityAfter_sub_settling hm hc]
    apply mul_nonpos_of_nonneg_of_nonpos hpow (sub_nonpos.2 hbelow)
  · intro habove
    rw [← sub_nonneg, velocityAfter_sub_settling hm hc]
    apply mul_nonneg hpow (sub_nonneg.2 habove)

end OrderedField

/-- Under a constant force a damped joint approaches the velocity at which the damping balances
the force: the distance after each number of steps is known, it shrinks with every step if these
are short enough, and with still shorter ones the velocity stays on its side. -/
theorem settles (d : Dynamics ℚ) (hm : 0 < d.inertia) (hc : 0 < d.damping)
    (force dt velocity : ℚ) :
  (∀ n, d.velocityAfter force dt velocity n - force / d.damping =
      (1 - d.damping * dt / d.inertia) ^ n * (velocity - force / d.damping))
    ∧ (0 < dt → dt < 2 * d.inertia / d.damping → ∀ n,
        (d.velocityAfter force dt velocity n ≠ force / d.damping →
          |d.velocityAfter force dt velocity (n + 1) - force / d.damping|
            < |d.velocityAfter force dt velocity n - force / d.damping|)
        ∧ (d.velocityAfter force dt velocity n = force / d.damping →
          d.velocityAfter force dt velocity (n + 1) = force / d.damping))
    ∧ (0 < dt → dt ≤ d.inertia / d.damping → ∀ n,
        (velocity ≤ force / d.damping →
          d.velocityAfter force dt velocity n ≤ force / d.damping)
        ∧ (force / d.damping ≤ velocity →
          force / d.damping ≤ d.velocityAfter force dt velocity n))
  := by
  refine ⟨?distance, ?shrinks, ?side⟩
  case distance => exact velocityAfter_sub_settling hm.ne' hc.ne' force dt velocity
  case shrinks =>
    intro hdt hshort n
    constructor
    · intro hne
      apply abs_advance_sub_settling_lt hm.ne' hc.ne' (abs_gain_lt_one hm hc hdt hshort) hne
    · intro heq
      rw [velocityAfter, heq]
      apply advance_settling hm.ne' hc.ne'
  case side =>
    intro _ hshort n
    apply velocityAfter_same_side hm.ne' hc.ne' (gain_nonneg hm hc hshort)

/-- A joint at rest is pushed to the velocity 2 and gets halfway there in one step. -/
theorem settles_half :
  let d : Dynamics ℚ := ⟨1, 2⟩
  (∀ n, d.velocityAfter 4 (1 / 4) 0 n - 4 / 2 = (1 - 2 * (1 / 4) / 1) ^ n * (0 - 4 / 2))
    ∧ |d.velocityAfter 4 (1 / 4) 0 1 - 4 / 2| < |d.velocityAfter 4 (1 / 4) 0 0 - 4 / 2|
    ∧ d.velocityAfter 4 (1 / 4) 0 10 ≤ 4 / 2
  := by
  intro d
  have hm : 0 < d.inertia := by norm_num [d]
  have hc : 0 < d.damping := by norm_num [d]
  obtain ⟨hdistance, hshrinks, hside⟩ := settles d hm hc 4 (1 / 4) 0
  refine ⟨hdistance, ?_, ?_⟩
  · apply (hshrinks (by norm_num) (by norm_num [d]) 0).1
    norm_num [d, velocityAfter]
  · apply (hside (by norm_num) (by norm_num [d]) 10).1
    norm_num [d]

end Servo.Dynamics
