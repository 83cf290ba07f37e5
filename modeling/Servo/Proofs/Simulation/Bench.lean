import Servo.Proofs.Controller.Pass
import Servo.Proofs.Dynamics.Pointwise
import Servo.Simulation

/-!
# The bench of a joint

A `Bench` is a joint taken out of its simulation: the controllers that drive it and its
records.  `Bench.tick` is what a tick of the simulation makes of it, given the set-points in
the inboxes (`Rigged.bench_step`), so what happens to a joint can be told without all other
controllers and joints.
-/

namespace Servo.Simulation

open Controller

/-! ### Systems of a simulation -/

/-- The systems of a simulation are some controllers and, behind them, the dynamics; its
clock runs. -/
structure Rigged (sim : Simulation) (cs : List Controller) (d : Dynamics Float) : Prop where
  systems : sim.systems = cs.map .controller ++ [.dynamics d]
  running : sim.clock.paused = false
  steady : sim.clock.target = none

/-- In the first phase of a tick controllers make a pass, and other systems come behind it. -/
theorem inPhase_append (tick : Tick Float) (b : Inboxes) (others : List System)
    (cs : List Controller) (s : Store) :
  (System.hooks.inPhase .prepare tick b s (cs.map .controller ++ others)).1
      = (pass tick b cs s).1.map .controller
        ++ (System.hooks.inPhase .prepare tick b (pass tick b cs s).2 others).1
    ∧ (System.hooks.inPhase .prepare tick b s (cs.map .controller ++ others)).2.1
      = (System.hooks.inPhase .prepare tick b (pass tick b cs s).2 others).2.1
  := by
  induction cs generalizing s with
  | nil => exact ⟨rfl, rfl⟩
  | cons c rest ih =>
    obtain ⟨hsystems, hstore⟩ := ih (c.step tick b s).store
    exact ⟨congrArg (_ :: ·) hsystems, hstore⟩

/-- In the first phase of a tick only the controllers work. -/
theorem inPhase_eq (tick : Tick Float) (b : Inboxes) (d : Dynamics Float)
    (cs : List Controller) (s : Store) :
  (System.hooks.inPhase .prepare tick b s (cs.map .controller ++ [.dynamics d])).1
      = (pass tick b cs s).1.map .controller ++ [.dynamics d]
    ∧ (System.hooks.inPhase .prepare tick b s (cs.map .controller ++ [.dynamics d])).2.1
      = (pass tick b cs s).2
  := inPhase_append tick b [.dynamics d] cs s

/-- In the second phase of a tick only the dynamics work. -/
theorem foldl_update_eq (tick : Tick Float) (d : Dynamics Float) (cs : List Controller)
    (s : Store) :
  (cs.map System.controller ++ [System.dynamics d]).foldl (fun s x => x.update tick s) s
    = d.update tick s
  := by
  induction cs with
  | nil => rfl
  | cons c rest ih => apply ih

/-- If its systems are some controllers and, behind them, the dynamics, then a step of a simulation
is a pass of the controllers and then the work of the dynamics. -/
theorem step_eq {sim : Simulation} {cs : List Controller} {d : Dynamics Float}
    (h : sim.systems = cs.map .controller ++ [.dynamics d]) (dt : Float) :
  let tick := (sim.clock.step dt).1
  let next := (sim.step dt).2.1
  let passed := pass tick sim.network.inboxes cs sim.store
  next.systems = passed.1.map .controller ++ [.dynamics d]
    ∧ next.store = d.update tick passed.2
  := by
  intro tick next passed
  obtain ⟨hsystems, hstore⟩ := inPhase_eq tick sim.network.inboxes d cs sim.store
  rw [← h] at hsystems hstore
  have hwork := System.work_eq tick sim.network.inboxes sim.store sim.systems
  constructor
  · apply (congrArg (·.1) hwork).trans hsystems
  · apply (congrArg (·.2.1) hwork).trans
    simp only [hsystems, hstore, foldl_update_eq]
    rfl

/-! ### The outline of the store -/

theorem outline_prepare (x : System) (tick : Tick Float) (b : Inboxes) (s : Store) :
  s.SameOutline (x.prepare tick b s).2.1
  := by
  cases x with
  | controller c => apply sameOutline_step
  | dynamics d => apply Store.SameOutline.refl

theorem outline_inPhase (tick : Tick Float) (b : Inboxes) (s : Store) (xs : List System) :
  s.SameOutline (System.hooks.inPhase .prepare tick b s xs).2.1
  := by
  induction xs generalizing s with
  | nil => apply Store.SameOutline.refl
  | cons x rest ih => apply (outline_prepare x tick b s).trans (ih _)

/-- The second phase of a tick keeps the outline of the store. -/
theorem outline_foldl_update (tick : Tick Float) (s : Store) (xs : List System) :
  s.SameOutline (xs.foldl (fun s x => x.update tick s) s)
  := by
  induction xs generalizing s with
  | nil => apply Store.SameOutline.refl
  | cons x rest ih =>
    refine Store.SameOutline.trans ?_ (ih _)
    cases x with
    | controller c => apply Store.SameOutline.refl
    | dynamics d => apply Dynamics.sameOutline_update

/-- A step keeps the outline of the store. -/
theorem outline_step (sim : Simulation) (dt : Float) :
  sim.store.SameOutline (sim.step dt).2.1.store
  := by
  have hwork := System.work_eq (sim.clock.step dt).1 sim.network.inboxes sim.store sim.systems
  have hstore : (sim.step dt).2.1.store = _ := congrArg (·.2.1) hwork
  rw [hstore]
  apply Store.SameOutline.trans (outline_inPhase _ _ sim.store sim.systems)
  apply outline_foldl_update

namespace Rigged

variable {sim : Simulation} {cs : List Controller} {d : Dynamics Float}

theorem tick_eq (h : sim.Rigged cs d) (dt : Float) :
  (sim.clock.step dt).1 = ⟨sim.clock.time + dt, dt, sim.clock.iterations + 1, false⟩
    ∧ (sim.clock.step dt).2 = ⟨sim.clock.time + dt, sim.clock.iterations + 1, false, none⟩
  := by
  rw [Clock.step, Clock.advance, h.steady, h.running]
  exact ⟨rfl, rfl⟩

/-- One tick is a pass of the controllers and then the work of the dynamics. -/
theorem step (h : sim.Rigged cs d) (dt : Float) :
  let tick := (sim.clock.step dt).1
  let next := (sim.step dt).2.1
  let passed := pass tick sim.network.inboxes cs sim.store
  next.Rigged passed.1 d ∧ next.store = d.update tick passed.2
    ∧ next.network = sim.network ∧ next.clock.time = sim.clock.time + dt
  := by
  obtain ⟨-, hclock⟩ := h.tick_eq dt
  intro tick next passed
  obtain ⟨hsystems, hstore⟩ := step_eq h.systems dt
  have hnext : next.clock = (sim.clock.step dt).2 := rfl
  rw [hclock] at hnext
  refine ⟨⟨hsystems, ?_, ?_⟩, hstore, rfl, ?_⟩
  · rw [hnext]
  · rw [hnext]
  · rw [hnext]

end Rigged

/-! ### The bench -/

/-- The drivers of a joint with the records of the joint. -/
structure Bench where
  drivers : List Active
  records : Records

/-- The bench of a joint after a tick. -/
def Bench.tick (joint : Entity) (d : Dynamics Float) (dt : Float) (b : Inboxes) (x : Bench) :
    Bench :=
  let driven := driveAll joint b dt x.drivers x.records
  ⟨driven.1, d.moved dt driven.2⟩

/-- A joint of a simulation has a given bench. -/
structure OnBench (sim : Simulation) (cs : List Controller) (e : Entity) (x : Bench) :
    Prop where
  drivers : Controller.drivers sim.store e cs = x.drivers
  records : sim.store.records? e = some x.records
  joint : x.records.joint.isSome = true

theorem OnBench.withNetwork {sim : Simulation} {cs : List Controller} {e : Entity} {x : Bench}
    (h : sim.OnBench cs e x) (n : Network) :
  { sim with network := n }.OnBench cs e x
  := ⟨h.drivers, h.records, h.joint⟩

/-- A tick of a simulation is one of every bench. -/
theorem Rigged.bench_step {sim : Simulation} {cs : List Controller} {d : Dynamics Float}
    (h : sim.Rigged cs d) {e : Entity} {x : Bench} (hx : sim.OnBench cs e x) (dt : Float) :
  let tick := (sim.clock.step dt).1
  (sim.step dt).2.1.OnBench (pass tick sim.network.inboxes cs sim.store).1 e
    (x.tick e d dt sim.network.inboxes)
  := by
  obtain ⟨-, hstore, -⟩ := h.step dt
  obtain ⟨htick, -⟩ := h.tick_eq dt
  have hrunning : (sim.clock.step dt).1.paused = false := by rw [htick]
  have hdt : (sim.clock.step dt).1.dt = dt := by rw [htick]
  have hpass := sameOutline_pass (sim.clock.step dt).1 sim.network.inboxes cs sim.store
  obtain ⟨hdrivers, hrecords⟩ := pass_joint hrunning sim.network.inboxes cs hx.records
  rw [hx.drivers, hdt] at hdrivers hrecords
  obtain ⟨r, hr, hsame⟩ := hpass.records? hx.records
  rw [hrecords, Option.some.injEq] at hr
  have hjoint : r.joint.isSome = true := by
    have : r.get? .joint = x.records.get? .joint := hsame nofun
    apply (congrArg Option.isSome this).trans hx.joint
  constructor
  case drivers => rw [drivers_congr (sim.outline_step dt), hdrivers, Bench.tick]
  case records =>
    rw [hstore, Dynamics.records?_update hrunning, hrecords, Option.map_some, hr, hjoint, hdt,
      Bench.tick, hr, if_pos rfl]
  case joint =>
    have : (d.moved dt r).get? .joint = r.get? .joint :=
      Dynamics.get?_moved (a := .joint) nofun d dt r
    rw [Bench.tick, hr]
    apply (congrArg Option.isSome this).trans hjoint

end Servo.Simulation
