import Servo.Model
import Servo.Tick

/-!
# Dynamics of joints

`Dynamics` is the model of a joint with inertia and viscous damping, over numbers of any
type `K`.  `Dynamics.accel` and `Dynamics.advance` are its equations, and
`Dynamics.update` moves all joints of a store by one tick: a joint that is told a velocity
has it, and a force accelerates a joint.
-/

namespace Servo

/-- The inertia and the viscous damping of a joint. -/
structure Dynamics (K : Type) where
  inertia : K
  damping : K
  deriving DecidableEq, Repr

namespace Dynamics

/-- Why two numbers are no inertia and damping. -/
inductive Error where
  | inertia
  | damping
  deriving DecidableEq, Repr

/-- The wording of an error. -/
def Error.message : Error → String
  | .inertia => "inertia must be positive"
  | .damping => "damping must be non-negative"

/-- What dynamics are called among the systems of a simulation. -/
def systemName : String := "joint_dynamics"

/-- The dynamics with a given inertia and damping. -/
def ofNumbers (inertia damping : Float) : Except Error (Dynamics Float) :=
  if ¬ inertia.isFinite ∨ inertia ≤ 0 then .error .inertia
  else if ¬ damping.isFinite ∨ damping < 0 then .error .damping
  else .ok ⟨inertia, damping⟩

section Equations

variable {K : Type} [Add K] [Sub K] [Mul K] [Div K]

/-- The acceleration of a joint at some velocity under a force. -/
def accel (d : Dynamics K) (velocity force : K) : K := (force - d.damping * velocity) / d.inertia

/-- The velocity after a force was applied for `dt`. -/
def advance (d : Dynamics K) (velocity force dt : K) : K :=
  velocity + d.accel velocity force * dt

end Equations

/-- The next velocity of a joint.  A command of its velocity goes before a force, a force
acts only as time goes on, and without a command there is none. -/
def next? (d : Dynamics Float) (dt : Float) (velocity command force : Option Float) :
    Option Float :=
  match command, force with
  | some v, _ => some v
  | none, some f =>
    let v := velocity.getD 0
    some (if 0 < dt then d.advance v f dt else v)
  | none, none => none

/-- The store with the next velocity of one joint.  It is refused if the joint is not in the
store. -/
def write (d : Dynamics Float) (dt : Float) (s : Store) (joint : Entity) :
    Except Store.Error Store :=
  match d.next? dt (s.axis? joint .velocity) (s.axis? joint .velocityCommand)
      (s.axis? joint .forceCommand) with
  | some v => s.setAxis joint .velocity v
  | none => .ok s

/-- The store after one joint was moved; what is refused changes nothing. -/
def move (d : Dynamics Float) (dt : Float) (s : Store) (joint : Entity) : Store :=
  match d.write dt s joint with
  | .ok s => s
  | .error _ => s

/-- The store after a tick, which moves the joints one after the other. -/
def update (d : Dynamics Float) (tick : Tick Float) (s : Store) : Store :=
  if tick.paused then s else (s.withAttribute .joint).foldl (d.move tick.dt) s

end Dynamics

end Servo
