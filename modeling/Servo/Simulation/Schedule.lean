import Servo.Decimal.Reading
import Servo.World

/-!
# Schedules

A schedule is a list of commands with the moments at which they are published.  A `Moment`
is a time in which also what is not a number has a sign, and `agenda` brings the commands of
a schedule into the total order of their moments.
-/

namespace Servo.Simulation

/-- The time at which a command is published. -/
inductive Moment where
  | time (t : Float)
  /-- What is not a number, with a minus sign; it comes before all other moments. -/
  | negativeNaN
  deriving DecidableEq

namespace Moment

/-- The time of a moment. -/
def toFloat : Moment → Float
  | .time t => t
  | .negativeNaN => Decimal.nan

/-- The place of a moment among all of them: from minus infinity through the negative
numbers, the negative and the positive zero and the positive numbers to infinity, and
behind it what is not a number. -/
def rank : Moment → Int
  | .negativeNaN => Int64.minValue.toInt
  | .time t =>
    let bits : Nat := t.toBits.toNat
    if bits ≤ Int64.maxValue.toInt then (bits : Int) else Int64.maxValue.toInt - (bits : Int)

/-- The moment that a whole text denotes. -/
def ofString? (text : String) : Option Moment :=
  (Decimal.readFloat? text).map fun t =>
    if t.isNaN ∧ text.toList.head? = some '-' then .negativeNaN else .time t

/-- A moment has come when its time is not after the present.  What is not a number never
comes. -/
def hasCome (now : Float) (m : Moment) : Bool := m.toFloat ≤ now

end Moment

/-- A set-point that is published at some moment. -/
structure Scheduled where
  moment : Moment
  topic : String
  value : Float
  deriving DecidableEq

/-- The schedule of the commands of a world. -/
def schedule (commands : List World.Command) : List Scheduled :=
  commands.map fun c => ⟨.time c.time, c.topic, c.value⟩

/-- A schedule in the order of its moments; commands of one moment keep their order. -/
def agenda (commands : List Scheduled) : List Scheduled :=
  commands.mergeSort fun a b => a.moment.rank ≤ b.moment.rank

end Servo.Simulation
