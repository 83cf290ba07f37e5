import Servo.Proofs.Controller.Setup
import Servo.Proofs.Simulation.Course
import Servo.Proofs.World.Valid

/-!
# Set-points in a run

`World.setPoint` is the set-point that a controller should have at a time, read off the
commands of a world.  `read_heard` says that this is what its inbox holds in a run.
-/

namespace Servo

/-- The last command of a world on a topic that is due at a time: the one with the latest
time, and of several with that time the last one of the document. -/
def World.lastCommand? (w : World) (t : Topic) (now : Float) : Option World.Command :=
  Simulation.latest? (fun c => (Simulation.Moment.time c.time).rank)
    (w.commands.filter fun c => c.time ≤ now ∧ Topic.ofString c.topic = .ok t)

/-- The set-point at a time of a controller of a model: the value of the last command on its
topic, or the initial one if there is no command or no topic. -/
def World.setPoint (w : World) (model : String) (c : Controller.Config) (now : Float) : Float :=
  match Topic.ofString (c.topicFor model) with
  | .ok t => ((w.lastCommand? t now).map (·.value)).getD c.initialVelocity
  | .error _ => c.initialVelocity

namespace Simulation

theorem addressed_schedule {w : World} (hw : w.Valid) :
  Addressed (schedule w.commands)
  := by
  intro c hc
  obtain ⟨x, hx, rfl⟩ := List.mem_map.1 hc
  apply (hw.commands x hx).addressed

theorem numeric_schedule {w : World} (hw : w.Valid) :
  Numeric (schedule w.commands)
  := by
  intro c hc
  obtain ⟨x, hx, rfl⟩ := List.mem_map.1 hc
  exact ⟨x.time, rfl, Binary64.isNaN_of_isFinite (hw.commands x hx).finite⟩

/-- The last command of the agenda on a topic that is due is the one of the world. -/
theorem getLast?_agenda_schedule (w : World) (t : Topic) (now : Float) :
  (((agenda (schedule w.commands)).filter (isDue now)).filter (·.topic? = some t)).getLast?.map
      (·.value)
    = (w.lastCommand? t now).map (·.value)
  := by
  have hfilter : (schedule w.commands).filter
        (fun c => decide (c.topic? = some t) && isDue now c)
      = schedule (w.commands.filter fun c => c.time ≤ now ∧ Topic.ofString c.topic = .ok t) := by
    rw [schedule, schedule, List.filter_map]
    congr 1
    apply List.filter_congr
    intro c _
    rw [Bool.eq_iff_iff, Function.comp_apply, Bool.and_eq_true, decide_eq_true_iff,
      topic?_eq_some_iff, decide_eq_true_iff, and_comm]
    apply and_congr_left fun _ => decide_eq_true_iff
  rw [List.filter_filter, getLast?_filter_agenda, hfilter, schedule, latest?_map,
    Option.map_map, World.lastCommand?]
  rfl

/-- Before a tick an inbox holds the set-point that its controller should have. -/
theorem read_heard {w : World} (hw : w.Valid) {n : Network} {model : Entity} {name : String}
    {c : Controller.Config} {a : Controller.Active}
    (ha : Controller.Installed n model name c a) (dt : Float) (k : Nat) :
  (published n (heard dt (schedule w.commands) (k + 1))).inboxes.read a.inbox
    = w.setPoint name c (tickTime dt k)
  := by
  rw [read_published ha.listens, heard, takeWhile_agenda (numeric_schedule hw), World.setPoint,
    ha.initial]
  cases Topic.ofString (c.topicFor name) with
  | error e => rfl
  | ok t => simp only [getLast?_agenda_schedule]

end Simulation

end Servo
