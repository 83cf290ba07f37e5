/-!
# Limits

`limit v lo hi` brings a number into an interval, if its bounds are those of one.
-/

namespace Servo

/-- The number `v` brought into the interval from `lo` to `hi`.  Bounds in the wrong
order, or one that is not a number, limit nothing. -/
def limit (v lo hi : Float) : Float :=
  if lo ≤ hi then (if v < lo then lo else if hi < v then hi else v) else v

end Servo
