import Servo.Simulation.Run

/-!
# The trace of a run

`Progress.after?` is a run after a number of steps, if it makes so many, and `stateAfter?` is
its simulation.  `run_cases` says that `run` ends with the last of these, or with a command
that cannot be published.
-/

namespace Servo.Simulation

/-- A run at its start. -/
def begun (sim : Simulation) (commands : List Scheduled) : Progress :=
  Progress.record { simulation := sim, pending := agenda commands }

namespace Progress

/-- The run after one more step, unless it ends or fails before. -/
def next? (o : Options) (p : Progress) : Option Progress :=
  if p.steps < o.maxSteps ∧ p.goesOn o = true then
    match p.advance o with
    | (q, none) => some q
    | (_, some _) => none
  else none

/-- The run after some more steps, unless it ends or fails before. -/
def after? (o : Options) (p : Progress) : Nat → Option Progress
  | 0 => some p
  | k + 1 => (p.after? o k).bind (next? o)

/-- A step that fails publishes, and one that does not is also a tick. -/
theorem advance_eq (o : Options) (p : Progress) :
  let due := publishDue p.simulation.clock.time p.simulation.network p.pending
  let sim : Simulation := { p.simulation with network := due.network }
  (∀ q, p.advance o = (q, none) →
      due.fault? = none ∧ q.simulation = (sim.step o.dt).2.1 ∧ q.pending = due.pending
        ∧ q.steps = p.steps + 1)
    ∧ (∀ q e, p.advance o = (q, some e) →
      due.fault? = some e ∧ q.simulation = sim ∧ q.steps = p.steps)
  := by
  intro due sim
  rw [advance]
  cases due.fault? with
  | some e =>
    constructor
    · intro q hq
      simp at hq
    · intro q e' hq
      simp only [Prod.mk.injEq, Option.some.injEq] at hq
      obtain ⟨rfl, rfl⟩ := hq
      exact ⟨rfl, rfl, rfl⟩
  | none =>
    constructor
    · intro q hq
      simp only [Prod.mk.injEq, and_true] at hq
      refine ⟨rfl, ?_⟩
      split at hq
      · rw [← hq]
        exact ⟨rfl, rfl, rfl⟩
      · rw [← hq]
        exact ⟨rfl, rfl, rfl⟩
    · intro q e' hq
      simp at hq

/-- A step that is made is one that does not fail, and the run goes on before it. -/
theorem next?_eq_some_iff {o : Options} {p q : Progress} :
  p.next? o = some q ↔
    p.steps < o.maxSteps ∧ p.goesOn o = true ∧ p.advance o = (q, none)
  := by
  rw [next?]
  split
  next h =>
    cases hadvance : p.advance o with
    | mk q' fault =>
      cases fault with
      | none => simp [h]
      | some e => simp
  next h =>
    constructor
    · nofun
    · rintro ⟨hsteps, hgoes, -⟩
      exact absurd ⟨hsteps, hgoes⟩ h

theorem after?_succ_of_next? {o : Options} {p q : Progress} (h : p.next? o = some q)
    (k : Nat) :
  p.after? o (k + 1) = q.after? o k
  := by
  induction k with
  | zero => apply h
  | succ k ih => rw [after?, ih, after?]

/-- A run makes steps until it ends or fails.  It ends when no step is left or when it does not go
on. -/
theorem loop_cases (o : Options) (fuel : Nat) (p : Progress)
    (hfuel : p.steps + fuel = o.maxSteps) :
  ∃ n ≤ fuel, ∃ q, p.after? o n = some q ∧ q.next? o = none
    ∧ (p.loop o fuel = (q, none) ∧ (n = fuel ∨ q.goesOn o = false)
      ∨ ∃ q' e, q.advance o = (q', some e) ∧ p.loop o fuel = (q', some e))
  := by
  induction fuel generalizing p with
  | zero =>
    refine ⟨0, Nat.le_refl 0, p, rfl, ?_, .inl ⟨rfl, .inl rfl⟩⟩
    rw [next?, if_neg]
    rintro ⟨hsteps, -⟩
    omega
  | succ fuel ih =>
    cases hgoes : p.goesOn o with
    | false =>
      refine ⟨0, Nat.zero_le _, p, rfl, ?_, .inl ⟨?_, .inr hgoes⟩⟩
      · rw [next?, if_neg]
        rintro ⟨-, h⟩
        rw [hgoes] at h
        cases h
      · rw [loop, if_neg]
        simp [hgoes]
    | true =>
      have hsteps : p.steps < o.maxSteps := by omega
      cases hadvance : p.advance o with
      | mk q fault =>
        cases fault with
        | some e =>
          refine ⟨0, Nat.zero_le _, p, rfl, ?_, .inr ⟨q, e, hadvance, ?_⟩⟩
          · rw [next?, if_pos ⟨hsteps, hgoes⟩, hadvance]
          · rw [loop, if_pos hgoes, hadvance]
        | none =>
          have hnext : p.next? o = some q := next?_eq_some_iff.2 ⟨hsteps, hgoes, hadvance⟩
          have hq := ((advance_eq o p).1 q hadvance).2.2.2
          obtain ⟨n, hle, r, hafter, hlast, hloop⟩ := ih q (by omega)
          have hstep : p.loop o (fuel + 1) = q.loop o fuel := by
            rw [loop, if_pos hgoes, hadvance]
          rw [hstep]
          refine ⟨n + 1, Nat.succ_le_succ hle, r, ?_, hlast, ?_⟩
          · rw [after?_succ_of_next? hnext, hafter]
          · apply hloop.imp_left
            rintro ⟨hends, hcause⟩
            exact ⟨hends, hcause.imp_left (congrArg (· + 1))⟩

end Progress

/-- The simulation after some ticks of a run, if the run makes so many. -/
def stateAfter? (sim : Simulation) (o : Options) (commands : List Scheduled) (k : Nat) :
    Option Simulation :=
  ((begun sim commands).after? o k).map (·.simulation)

/-- What a run has recorded, and how it ends, is told by its loop. -/
theorem run_of_loop {o : Options} (ho : o.fault? = none) {sim : Simulation}
    {commands : List Scheduled} {q : Progress} {fault : Option Topic.Error}
    (h : (begun sim commands).loop o o.maxSteps = (q, fault)) :
  sim.run o commands = ⟨q.simulation, q.events.toList,
    match fault with
    | some e => .error (.topic e)
    | none => .ok (q.samples.toList
        ++ if q.steps % o.recordEvery = 0 then [] else q.simulation.snapshot)⟩
  := by
  rw [begun] at h
  rw [run, ho]
  simp only [h]
  cases fault with
  | some e => rfl
  | none =>
    by_cases hlast : q.steps % o.recordEvery = 0
    · simp only [if_pos hlast, List.append_nil]
    · simp only [if_neg hlast, Progress.record, Array.toList_appendList]

/-- A run with valid options ends after its last step, or with a command that cannot be
published. -/
theorem run_cases {o : Options} (ho : o.fault? = none) (sim : Simulation)
    (commands : List Scheduled) :
  ∃ n q, (begun sim commands).after? o n = some q ∧ q.next? o = none
    ∧ ((∃ samples, (sim.run o commands).result = .ok samples)
          ∧ (sim.run o commands).simulation = q.simulation
      ∨ ∃ q' e, q.advance o = (q', some e)
          ∧ (sim.run o commands).result = .error (.topic e)
          ∧ (sim.run o commands).simulation = q'.simulation)
  := by
  obtain ⟨n, -, q, hafter, hlast, ⟨hloop, -⟩ | ⟨q', e, hadvance, hloop⟩⟩ :=
    Progress.loop_cases o o.maxSteps (begun sim commands) (Nat.zero_add _)
  · refine ⟨n, q, hafter, hlast, .inl ?_⟩
    rw [run_of_loop ho hloop]
    exact ⟨⟨_, rfl⟩, rfl⟩
  · refine ⟨n, q, hafter, hlast, .inr ⟨q', e, hadvance, ?_⟩⟩
    rw [run_of_loop ho hloop]
    exact ⟨rfl, rfl⟩

end Servo.Simulation
