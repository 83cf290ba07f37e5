import Servo.Proofs.Clock.Requests
import Servo.Proofs.Simulation.Rounds

/-!
# The clock of a simulation

A simulation is asked for steps, for jumps and to stand still, which is all that its clock depends
on.  In a step every system is called in one phase after the other (`step_calls`), and whatever the
systems do, each of them is told the same tick in all phases (`Hooks.noting_work`).  `clock_law`
says what this tick is.
-/

namespace Servo

/-! ### What systems are told -/

namespace Hooks

variable {σ : Type}

/-- What a system was told, and in which phases. -/
abbrev Notes := List (Phase × Tick Float)

/-- Systems that do as before, and note what they are told. -/
def noting (h : Hooks σ) : Hooks (σ × Notes) where
  prepare tick b s x :=
    let (y, s, events) := h.prepare tick b s x.1
    ((y, x.2 ++ [(.prepare, tick)]), s, events)
  update tick s x :=
    let (y, s) := h.update tick s x.1
    ((y, x.2 ++ [(.update, tick)]), s)
  observe tick s x := (h.observe tick s x.1, x.2 ++ [(.observe, tick)])

variable (h : Hooks σ) (tick : Tick Float) (b : Inboxes) (s : Store)

/-- In a phase systems are told the tick, each of them once. -/
theorem noting_inPhase (phase : Phase) (notes : Notes) (xs : List σ) :
  h.noting.inPhase phase tick b s (xs.map (·, notes))
    = ((h.inPhase phase tick b s xs).1.map (·, notes ++ [(phase, tick)]),
      (h.inPhase phase tick b s xs).2)
  := by
  induction xs generalizing s with
  | nil => rfl
  | cons x rest ih =>
    have hpart : h.noting.part phase tick b s (x, notes)
        = (((h.part phase tick b s x).1, notes ++ [(phase, tick)]),
          (h.part phase tick b s x).2) := by
      cases phase <;> rfl
    simp only [List.map_cons, inPhase, hpart, ih]

/-- Systems of any kind are told the same tick in all phases, each of them once. -/
theorem noting_work (notes : Notes) (xs : List σ) :
  h.noting.work tick b s (xs.map (·, notes))
    = ((h.work tick b s xs).1.map
        (·, notes ++ [(.prepare, tick), (.update, tick), (.observe, tick)]),
      (h.work tick b s xs).2)
  := by
  simp only [work, noting_inPhase, List.append_assoc, List.cons_append, List.nil_append]

end Hooks

namespace Simulation

open Clock

/-! ### Calls of systems -/

/-- A system is to do its part in a phase of a tick. -/
structure Call where
  phase : Phase
  /-- The place of the system among all. -/
  place : Nat
  /-- What the system is told. -/
  tick : Tick Float

/-- A call is made. -/
def Performance.call (x : Performance) (c : Call) : Performance :=
  let sim := x.simulation
  match sim.systems[c.place]? with
  | none => x
  | some system =>
    let (system, store, events) :=
      System.hooks.part c.phase c.tick sim.network.inboxes sim.store system
    ⟨{ sim with systems := sim.systems.set c.place system, store }, x.events ++ events⟩

/-- The calls of some systems one after the other in a phase of a tick. -/
def callsIn (phase : Phase) (tick : Tick Float) (places : List Nat) : List Call :=
  places.map fun place => ⟨phase, place, tick⟩

/-- The calls of a tick of so many systems. -/
def calls (systems : Nat) (tick : Tick Float) : List Call :=
  [Phase.prepare, .update, .observe].flatMap fun phase =>
    callsIn phase tick (List.range systems)

theorem foldl_callsIn_cons (phase : Phase) (tick : Tick Float) (place : Nat) (rest : List Nat)
    (x : Performance) :
  (callsIn phase tick (place :: rest)).foldl Performance.call x
    = (callsIn phase tick rest).foldl Performance.call (x.call ⟨phase, place, tick⟩)
  := rfl

/-- The calls of a phase are the phase. -/
theorem foldl_callsIn (phase : Phase) (tick : Tick Float) (done rest : List System)
    (x : Performance) (hsystems : x.simulation.systems = done ++ rest) :
  let r := System.hooks.inPhase phase tick x.simulation.network.inboxes x.simulation.store rest
  (callsIn phase tick (List.range' done.length rest.length)).foldl Performance.call x
    = ⟨{ x.simulation with systems := done ++ r.1, store := r.2.1 }, x.events ++ r.2.2⟩
  := by
  -- The systems in front of those that are called next were called already.
  induction rest generalizing done x with
  | nil =>
    obtain ⟨sim, events⟩ := x
    simp only [Hooks.inPhase, ← hsystems, List.append_nil]
    rfl
  | cons system rest ih =>
    intro r
    let called := System.hooks.part phase tick x.simulation.network.inboxes x.simulation.store
      system
    have hcall : x.call ⟨phase, done.length, tick⟩
        = ⟨{ x.simulation with systems := done ++ [called.1] ++ rest, store := called.2.1 },
          x.events ++ called.2.2⟩ := by
      simp [Performance.call, hsystems, called]
    have hrest := ih (done ++ [called.1]) (x.call ⟨phase, done.length, tick⟩)
      (congrArg (·.simulation.systems) hcall)
    rw [List.length_append, List.length_singleton] at hrest
    rw [List.length_cons, List.range'_succ, foldl_callsIn_cons, hrest, hcall]
    simp only [List.append_assoc]
    rfl

/-- The calls of a phase of all systems are the phase. -/
theorem foldl_callsIn_range {n : Nat} (phase : Phase) (tick : Tick Float) (x : Performance)
    (hn : x.simulation.systems.length = n) :
  let sim := x.simulation
  let r := System.hooks.inPhase phase tick sim.network.inboxes sim.store sim.systems
  (callsIn phase tick (List.range n)).foldl Performance.call x
    = ⟨{ sim with systems := r.1, store := r.2.1 }, x.events ++ r.2.2⟩
  := by
  rw [List.range_eq_range', ← hn]
  apply foldl_callsIn phase tick [] x.simulation.systems x rfl

/-- A step calls all systems in one phase after the other, and it tells all of them the tick that
it reports. -/
theorem step_calls (sim : Simulation) (dt : Float) :
  let r := sim.step dt
  (calls sim.systems.length r.1).foldl Performance.call ⟨{ sim with clock := r.2.1.clock }, []⟩
    = ⟨r.2.1, r.2.2⟩
  := by
  intro r
  let prepared := System.hooks.inPhase .prepare r.1 sim.network.inboxes sim.store sim.systems
  let updated := System.hooks.inPhase .update r.1 sim.network.inboxes prepared.2.1 prepared.1
  have hprepared : prepared.1.length = sim.systems.length := Hooks.length_inPhase ..
  have hupdated : updated.1.length = sim.systems.length :=
    (Hooks.length_inPhase ..).trans hprepared
  simp only [calls, List.flatMap_cons, List.flatMap_nil, List.append_nil, List.foldl_append]
  rw [foldl_callsIn_range .prepare r.1 _ rfl, foldl_callsIn_range .update r.1 _ hprepared,
    foldl_callsIn_range .observe r.1 _ hupdated]
  rfl

/-! ### The law of the clock -/

/-- The simulation after a request to its clock. -/
def serve (sim : Simulation) : Request Float → Simulation
  | .step dt => (sim.step dt).2.1
  | .seek time => sim.seek time
  | .setPaused paused => sim.setPaused paused

/-- The simulation after some requests to its clock. -/
def serveAll (sim : Simulation) (requests : List (Request Float)) : Simulation :=
  requests.foldl serve sim

/-- The clock of a simulation serves what the simulation is asked for. -/
theorem clock_serveAll (sim : Simulation) (requests : List (Request Float)) :
  (sim.serveAll requests).clock = sim.clock.serveAll requests
  := by
  induction requests generalizing sim with
  | nil => rfl
  | cons r rest ih =>
    have hclock : (sim.serve r).clock = sim.clock.serve r := by
      cases r <;> rfl
    rw [serveAll, List.foldl_cons, ← serveAll, ih, hclock]
    rfl

/-- The law of the clock.  After any requests to a new simulation, the steps that it made without
standing still are counted, exactly so by a counter of 64 bits for fewer than `2 ^ 64` requests, and
the next step tells its systems, in all phases, the tick that the requests ask for: a jump that
waits is made, even by a clock that stands still; otherwise the time changes only if the clock runs.
The systems are called one after the other in each phase, and if they note what they are told, then
it is this tick, once in each phase.  In exact arithmetic the time is the sum of the lengths of all
ticks, and the ticks that lead to an earlier time are the rewinds. -/
theorem clock_law :
  (∀ (store : Store) (network : Network) (systems : List System)
      (requests : List (Request Float)) (dt : Float),
    let sim := Simulation.serveAll { store, network, systems } requests
    let tick := (sim.step dt).1
    let next := (sim.step dt).2.1
    sim.clock.iterations = counted requests
      ∧ (requests.length < UInt64.size → sim.clock.counter.toNat = sim.clock.iterations)
      ∧ next.clock.counter
        = (if sim.clock.paused then sim.clock.counter else sim.clock.counter + 1)
      ∧ Tells requests sim.clock.time dt tick
      ∧ next.clock.time = tick.time ∧ next.clock.iterations = tick.iterations
      ∧ (calls sim.systems.length tick).foldl Performance.call
          ⟨{ sim with clock := next.clock }, []⟩ = ⟨next, (sim.step dt).2.2⟩
      ∧ System.hooks.noting.work tick sim.network.inboxes sim.store (sim.systems.map (·, []))
        = (next.systems.map (·, [(.prepare, tick), (.update, tick), (.observe, tick)]),
          next.store, (sim.step dt).2.2))
  ∧ ∀ (requests : List (Request ℚ)) (dt : ℚ),
    let c := Clock.serveAll .start requests
    let tick := (c.step dt).1
    c.time = ((Clock.ticks .start requests).map (·.dt)).sum
      ∧ (tick.isRewind = true ↔ tick.time < c.time)
  := by
  constructor
  · intro store network systems requests dt sim tick next
    have hfollows : sim.clock.Follows requests := by
      rw [clock_serveAll]
      apply follows_serveAll
    obtain ⟨htells, htime, hiterations⟩ := hfollows.tells dt
    use hfollows.iterations, hfollows.toNat_counter, counter_step _ dt, htells, htime, hiterations,
      step_calls sim dt
    apply Hooks.noting_work
  · intro requests dt c tick
    refine ⟨?_, isRewind_step c dt⟩
    rw [time_serveAll]
    apply zero_add

/-- A clock that stands still after one step makes the later one of two jumps, and counts no other
step. -/
theorem clock_law_of_jumps :
  let requests : List (Request Float) := [.step 0.5, .setPaused true, .seek 3, .seek 2]
  let sim := Simulation.serveAll { systems := [.dynamics ⟨1, 0⟩] } requests
  let tick := (sim.step 0.5).1
  requests.length < UInt64.size ∧ sim.clock.counter.toNat = 1
    ∧ tick = { time := 2, dt := 1.5, iterations := 1, paused := true }
    ∧ System.hooks.noting.work tick sim.network.inboxes sim.store (sim.systems.map (·, []))
      = ([(.dynamics ⟨1, 0⟩, [(.prepare, tick), (.update, tick), (.observe, tick)])],
        (sim.step 0.5).2.1.store, (sim.step 0.5).2.2)
  := by
  intro requests sim tick
  obtain ⟨hiterations, hcounter, -, htells, -, -, -, hnotes⟩ :=
    clock_law.1 .empty {} [.dynamics ⟨1, 0⟩] requests 0.5
  have hlength : requests.length < UInt64.size := by decide
  have hcounted : Clock.counted requests = 1 := by decide
  obtain ⟨htime, hdt⟩ := htells.jump 2 rfl
  refine ⟨hlength, ?_, ?_, hnotes⟩
  · rw [← hcounted, ← hiterations]
    apply hcounter hlength
  · have hnow : 2 - sim.clock.time = 1.5 := by decide +kernel
    have hall : tick = ⟨tick.time, tick.dt, tick.iterations, tick.paused⟩ := rfl
    rw [hall, htime, hdt, htells.iterations, htells.paused, hnow]
    rfl

end Simulation

end Servo
