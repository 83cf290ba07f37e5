import Servo.Simulation.Run

/-!
# Simulations within reach

A simulation `Reaches` others by steps, by pauses and jumps of its clock, and by publications.  A
run does nothing else: what it records are snapshots of simulations that it reaches
(`samples_of_run`), so what every step preserves holds of all recordings.
-/

namespace Servo.Simulation

/-- The simulation `x` becomes another one by steps, pauses, jumps and publications. -/
inductive Reaches (x : Simulation) : Simulation → Prop where
  | refl : Reaches x x
  | step {y : Simulation} (h : Reaches x y) (dt : Float) : Reaches x (y.step dt).2.1
  | setPaused {y : Simulation} (h : Reaches x y) (paused : Bool) : Reaches x (y.setPaused paused)
  | seek {y : Simulation} (h : Reaches x y) (time : Float) : Reaches x (y.seek time)
  | publish {y : Simulation} (h : Reaches x y) {topic : String} {v : Float} {p : Network.Publication}
    (hp : y.network.publish topic v = .ok p) : Reaches x { y with network := p.network }

/-- What is reached in two parts is reached. -/
theorem Reaches.trans {x y z : Simulation} (h : x.Reaches y) (h' : y.Reaches z) :
  x.Reaches z
  := by
  induction h' with
  | refl => apply h
  | step _ dt ih => apply ih.step
  | setPaused _ paused ih => apply ih.setPaused
  | seek _ time ih => apply ih.seek
  | publish _ hp ih => apply ih.publish hp

/-- Publishing what is due is publishing, also if it fails. -/
theorem Reaches.publishDue {x y : Simulation} (h : x.Reaches y) (now : Float)
    (pending : List Scheduled) :
  x.Reaches { y with network := (publishDue now y.network pending).network }
  := by
  induction pending generalizing y with
  | nil => apply h
  | cons c rest ih =>
    rw [Simulation.publishDue]
    split
    next =>
      cases hp : y.network.publish c.topic c.value with
      | error e => apply h
      | ok p => apply ih (h.publish hp)
    next => apply h

/-- A run that began with the simulation `x` has recorded snapshots of simulations that `x`
reaches. -/
structure Progress.Follows (x : Simulation) (p : Progress) : Prop where
  simulation : x.Reaches p.simulation
  samples : ∃ states : List Simulation, p.samples.toList = states.flatMap snapshot
    ∧ ∀ y ∈ states, x.Reaches y

namespace Progress.Follows

variable {x : Simulation} {p q : Progress} {o : Options}

/-- The simulation that is recorded is reached. -/
theorem record (h : p.Follows x) :
  p.record.Follows x
  := by
  obtain ⟨states, hsamples, hstates⟩ := h.samples
  constructor
  case simulation => apply h.simulation
  case samples =>
    refine ⟨states ++ [p.simulation], ?_, ?_⟩
    · rw [Progress.record, Array.toList_appendList, hsamples, List.flatMap_append,
        List.flatMap_singleton]
    · intro y hy
      rcases List.mem_append.1 hy with hy | hy
      · apply hstates y hy
      · rw [List.mem_singleton.1 hy]
        apply h.simulation

/-- A step of a run publishes, and then it is a step of the simulation, unless it fails. -/
theorem advance (h : p.Follows x) (o : Options) :
  (p.advance o).1.Follows x
  := by
  have hdue := h.simulation.publishDue p.simulation.clock.time p.pending
  simp only [Progress.advance]
  split
  next => exact ⟨hdue, h.samples⟩
  next =>
    have hnext := hdue.step o.dt
    split
    next =>
      apply Follows.record
      exact ⟨hnext, h.samples⟩
    next => exact ⟨hnext, h.samples⟩

/-- The steps of a run lead to simulations that are reached. -/
theorem loop (h : p.Follows x) (o : Options) (fuel : Nat) :
  (p.loop o fuel).1.Follows x
  := by
  induction fuel generalizing p with
  | zero => apply h
  | succ fuel ih =>
    have hnext := h.advance o
    rw [Progress.loop]
    split
    next =>
      cases hadvance : p.advance o with
      | mk q fault =>
        rw [hadvance] at hnext
        cases fault with
        | some e => apply hnext
        | none => apply ih hnext
    next => apply h

end Progress.Follows

/-- A run ends with a simulation that it reaches, and what it records are snapshots of simulations
that it reaches. -/
theorem samples_of_run (x : Simulation) (o : Options) (commands : List Scheduled) :
  x.Reaches (x.run o commands).simulation
    ∧ ∀ samples, (x.run o commands).result = .ok samples →
      ∃ states : List Simulation, samples = states.flatMap snapshot ∧ ∀ y ∈ states, x.Reaches y
  := by
  have hbegun : Progress.Follows x { simulation := x, pending := agenda commands } :=
    ⟨.refl, [], rfl, nofun⟩
  have hloop := hbegun.record.loop o o.maxSteps
  cases hfault : o.fault? with
  | some a =>
    rw [run, hfault]
    exact ⟨.refl, nofun⟩
  | none =>
    obtain ⟨⟨q, fault⟩, hend⟩ : ∃ result, Progress.loop o o.maxSteps
        (Progress.record { simulation := x, pending := agenda commands }) = result := ⟨_, rfl⟩
    rw [hend] at hloop
    cases fault with
    | some e =>
      simp only [run, hfault, hend]
      exact ⟨hloop.simulation, nofun⟩
    | none =>
      have hlast : (if q.steps % o.recordEvery = 0 then q else q.record).Follows x := by
        split
        · apply hloop
        · apply hloop.record
      simp only [run, hfault, hend]
      refine ⟨hlast.simulation, ?_⟩
      rintro samples ⟨⟩
      apply hlast.samples

end Servo.Simulation
