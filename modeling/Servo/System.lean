import Servo.Controller
import Servo.Dynamics

/-!
# Systems

Systems work on the store of a simulation in every tick.  `Hooks` are what systems of some kind do
in the three phases of a tick, and `Hooks.work` is a whole tick: each phase is gone through by all
systems, one after the other, before the next one begins (`Hooks.inPhase`).  The systems of a
simulation are controllers, which write their commands in the first phase, and the dynamics, which
move the joints in the second one (`System.hooks`).
-/

namespace Servo

/-- The parts of a tick. -/
inductive Phase where
  /-- Commands are written. -/
  | prepare
  /-- The joints move. -/
  | update
  /-- What came of the tick is observed. -/
  | observe
  deriving DecidableEq

/-- What systems of some kind do in the phases of a tick. -/
structure Hooks (σ : Type) where
  /-- The first phase, in which commands are written. -/
  prepare : Tick Float → Inboxes → Store → σ → σ × Store × List Log.Event
  /-- The second phase, in which the joints move. -/
  update : Tick Float → Store → σ → σ × Store
  /-- The last phase, in which what came of the tick is seen, and not changed any more. -/
  observe : Tick Float → Store → σ → σ

namespace Hooks

variable {σ : Type}

/-- What a system does in a phase, to itself and to the store, and what it says. -/
def part (h : Hooks σ) (phase : Phase) (tick : Tick Float) (b : Inboxes) (s : Store) (x : σ) :
    σ × Store × List Log.Event :=
  match phase with
  | .prepare => h.prepare tick b s x
  | .update =>
    let (x, s) := h.update tick s x
    (x, s, [])
  | .observe => (h.observe tick s x, s, [])

/-- A phase of a tick for systems one after the other. -/
def inPhase (h : Hooks σ) (phase : Phase) (tick : Tick Float) (b : Inboxes) (s : Store) :
    List σ → List σ × Store × List Log.Event
  | [] => ([], s, [])
  | x :: rest =>
    let (x, s, events) := h.part phase tick b s x
    let (rest, s, later) := h.inPhase phase tick b s rest
    (x :: rest, s, events ++ later)

/-- A tick of some systems. -/
def work (h : Hooks σ) (tick : Tick Float) (b : Inboxes) (s : Store) (systems : List σ) :
    List σ × Store × List Log.Event :=
  let (systems, s, prepared) := h.inPhase .prepare tick b s systems
  let (systems, s, updated) := h.inPhase .update tick b s systems
  let (systems, s, observed) := h.inPhase .observe tick b s systems
  (systems, s, prepared ++ updated ++ observed)

/-- No system comes or goes in a phase. -/
theorem length_inPhase (h : Hooks σ) (phase : Phase) (tick : Tick Float) (b : Inboxes) (s : Store)
    (systems : List σ) :
  (h.inPhase phase tick b s systems).1.length = systems.length
  := by
  induction systems generalizing s with
  | nil => rfl
  | cons x rest ih => exact congrArg (· + 1) (ih _)

end Hooks

/-- A part of a simulation that works in every tick. -/
inductive System where
  | controller (c : Controller)
  | dynamics (d : Dynamics Float)
  deriving DecidableEq

namespace System

/-- What a system is called. -/
def name : System → String
  | .controller _ => Controller.systemName
  | .dynamics _ => Dynamics.systemName

/-- The first phase of a tick, in which the controllers write their commands. -/
def prepare (tick : Tick Float) (b : Inboxes) (s : Store) :
    System → System × Store × List Log.Event
  | .controller c =>
    let r := c.step tick b s
    (.controller r.controller, r.store, r.events ++ [.ticked r.outcome])
  | .dynamics d => (.dynamics d, s, [])

/-- The second phase of a tick, in which the dynamics move the joints. -/
def update (tick : Tick Float) (s : Store) : System → Store
  | .controller _ => s
  | .dynamics d => d.update tick s

/-- The last phase of a tick, of which neither the controllers nor the dynamics keep anything. -/
def observe (_tick : Tick Float) (_s : Store) (x : System) : System := x

/-- What the systems of a simulation do in a tick. -/
def hooks : Hooks System where
  prepare := prepare
  update tick s x := (x, x.update tick s)
  observe := observe

variable (tick : Tick Float) (b : Inboxes) (s : Store)

theorem inPhase_cons (x : System) (rest : List System) :
  hooks.inPhase .prepare tick b s (x :: rest)
    = ((x.prepare tick b s).1 :: (hooks.inPhase .prepare tick b (x.prepare tick b s).2.1 rest).1,
      (hooks.inPhase .prepare tick b (x.prepare tick b s).2.1 rest).2.1,
      (x.prepare tick b s).2.2
        ++ (hooks.inPhase .prepare tick b (x.prepare tick b s).2.1 rest).2.2)
  := rfl

/-- In the second phase of a tick systems work on the store, and stay as they are. -/
theorem inPhase_update (xs : List System) :
  hooks.inPhase .update tick b s xs = (xs, xs.foldl (fun s x => x.update tick s) s, [])
  := by
  induction xs generalizing s with
  | nil => rfl
  | cons x rest ih =>
    have hrest := ih (x.update tick s)
    simp only [Hooks.inPhase, Hooks.part, hooks] at hrest ⊢
    rw [hrest, List.foldl_cons, List.nil_append]

/-- In the last phase of a tick nothing is kept. -/
theorem inPhase_observe (xs : List System) :
  hooks.inPhase .observe tick b s xs = (xs, s, [])
  := by
  induction xs with
  | nil => rfl
  | cons x rest ih =>
    simp only [Hooks.inPhase, Hooks.part, hooks, observe] at ih ⊢
    rw [ih, List.nil_append]

/-- A tick is its first two phases. -/
theorem work_eq (xs : List System) :
  let prepared := hooks.inPhase .prepare tick b s xs
  hooks.work tick b s xs
    = (prepared.1, prepared.1.foldl (fun s x => x.update tick s) prepared.2.1, prepared.2.2)
  := by
  intro prepared
  simp only [Hooks.work, inPhase_update, inPhase_observe, List.append_nil, prepared]

end System

end Servo
