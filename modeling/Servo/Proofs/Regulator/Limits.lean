import Servo.Proofs.Binary64.Order
import Servo.Regulator

/-!
# The limits of a regulator

Bounds in order keep a number `Within` them, and bounds that are `Disordered` are as good as none.
`limited_update` says so of the integral and of the command of a regulator after every update, and
`after?_eq` says that no update clamps a number between bounds that are not in order.
-/

namespace Servo

/-! ### Bounds -/

/-- A number lies between two bounds, or it is not a number. -/
def Within (lo hi v : Float) : Prop := v.isNaN = true ∨ lo ≤ v ∧ v ≤ hi

/-- Bounds in the wrong order, or one that is not a number. -/
def Disordered (lo hi : Float) : Prop := hi < lo ∨ lo.isNaN = true ∨ hi.isNaN = true

/-- A number is brought between bounds that are in order. -/
theorem within_limit {lo hi : Float} (h : lo ≤ hi) (v : Float) :
  Within lo hi (limit v lo hi)
  := by
  obtain ⟨hlo, hhi, -⟩ := Binary64.le_iff.1 h
  rw [limit, if_pos h]
  split
  next => exact .inr ⟨Binary64.le_refl hlo, h⟩
  next hlow =>
    split
    next => exact .inr ⟨h, Binary64.le_refl hhi⟩
    next hhigh =>
      cases hv : v.isNaN with
      | true => exact .inl hv
      | false => exact .inr ⟨Binary64.le_of_not_lt hv hlo hlow, Binary64.le_of_not_lt hhi hv hhigh⟩

/-- Bounds that are not in order limit nothing. -/
theorem limit_of_disordered {lo hi : Float} (h : Disordered lo hi) (v : Float) :
  limit v lo hi = v
  := by
  rw [limit, if_neg (Binary64.not_le_iff.2 h)]

/-- The number `v` brought first above `lo` and then below `hi`; there is none if these are not in
order. -/
def clamp? (v lo hi : Float) : Option Float :=
  if lo ≤ hi then
    let v := if v < lo then lo else v
    some (if hi < v then hi else v)
  else none

/-- The number `v` brought between bounds by a clamp, unless they are not in order. -/
def limit? (v lo hi : Float) : Option Float := if lo ≤ hi then clamp? v lo hi else some v

/-- A limit never clamps between bounds that are not in order. -/
theorem limit?_eq (v lo hi : Float) :
  limit? v lo hi = some (limit v lo hi)
  := by
  rw [limit?, limit, clamp?]
  split
  next h =>
    have hnot : ¬ hi < lo := Binary64.not_lt_of_le h
    by_cases hlow : v < lo
    · simp only [if_pos hlow, if_neg hnot]
    · simp only [if_neg hlow]
  next => rfl

namespace Regulator

/-! ### Updates -/

/-- The regulator after some updates, each an error with the time for which it lasted. -/
def after (r : Regulator) (updates : List (Float × Float)) : Regulator :=
  updates.foldl (fun r u => r.update u.1 u.2) r

/-- The regulator after an update, made with clamps; there is none if the bounds of one of them
are not in order. -/
def update? (r : Regulator) (error dt : Float) : Option Regulator := do
  let g := r.gains
  let integral ← limit? (r.state.integral + g.integral * error * dt) g.integralMin g.integralMax
  let rate := if dt == 0 then r.state.errorRate else (error - r.state.lastError) / dt
  let last := if dt == 0 then r.state.lastError else error
  let output ← limit? (g.proportional * error + integral + g.derivative * rate + g.offset)
    g.commandMin g.commandMax
  return { r with state := ⟨integral, last, rate, output⟩ }

/-- The regulator after some updates, made with clamps. -/
def after? (r : Regulator) (updates : List (Float × Float)) : Option Regulator :=
  updates.foldlM (fun r u => r.update? u.1 u.2) r

/-- No update clamps between bounds that are not in order. -/
theorem update?_eq (r : Regulator) (error dt : Float) :
  r.update? error dt = some (r.update error dt)
  := by
  simp only [update?, limit?_eq]
  rfl

/-- No updates clamp between bounds that are not in order. -/
theorem after?_eq (r : Regulator) (updates : List (Float × Float)) :
  r.after? updates = some (r.after updates)
  := by
  induction updates generalizing r with
  | nil => rfl
  | cons u later ih =>
    rw [after?, List.foldlM_cons, update?_eq]
    apply ih

/-- What the gains `g` promise of an update that makes `r'` of the regulator `r`. -/
structure Limited (g : Gains) (r r' : Regulator) (error dt : Float) : Prop where
  integral : g.integralMin ≤ g.integralMax →
    Within g.integralMin g.integralMax r'.state.integral
  output : g.commandMin ≤ g.commandMax → Within g.commandMin g.commandMax r'.state.output
  unlimitedIntegral : Disordered g.integralMin g.integralMax →
    r'.state.integral = r.state.integral + g.integral * error * dt
  unlimitedOutput : Disordered g.commandMin g.commandMax →
    r'.state.output = g.proportional * error + r'.state.integral
      + g.derivative * r'.state.errorRate + g.offset

/-- After an update the integral and the command are within their limits, and there are none
whose bounds are not in order. -/
theorem limited_update (r : Regulator) (error dt : Float) :
  Limited r.gains r (r.update error dt) error dt
  := by
  constructor
  case integral =>
    intro h
    apply within_limit h
  case output =>
    intro h
    apply within_limit h
  case unlimitedIntegral =>
    intro h
    apply limit_of_disordered h
  case unlimitedOutput =>
    intro h
    apply limit_of_disordered h

@[simp]
theorem gains_after (r : Regulator) (updates : List (Float × Float)) :
  (r.after updates).gains = r.gains
  := by
  induction updates generalizing r with
  | nil => rfl
  | cons u later ih => apply ih

end Regulator

end Servo
