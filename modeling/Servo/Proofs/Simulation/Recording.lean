import Mathlib.Data.Option.Basic
import Servo.Proofs.Simulation.Course

/-!
# Recordings

How often a run records the joints does not matter for anything but its recordings.
`recording_observes` says that a run which records them after every few ticks goes the same way as
one which records them after every tick, and which of the recordings of the latter it has.
-/

namespace Servo.Simulation

/-! ### Runs that record more or less often -/

namespace Progress

/-- Two runs that are the same but for what they have recorded. -/
structure SameCourse (p q : Progress) : Prop where
  simulation : q.simulation = p.simulation
  pending : q.pending = p.pending
  steps : q.steps = p.steps
  events : q.events = p.events

variable {p q : Progress}

theorem SameCourse.refl (p : Progress) :
  p.SameCourse p
  := ⟨rfl, rfl, rfl, rfl⟩

theorem SameCourse.record_ite (h : p.SameCourse q) (c c' : Prop) [Decidable c] [Decidable c'] :
  (if c then p.record else p).SameCourse (if c' then q.record else q)
  := by
  rw [Progress.record_ite, Progress.record_ite]
  exact ⟨h.simulation, h.pending, h.steps, h.events⟩

variable (o : Options) (every : Nat)

/-- In a step runs stay the same, however often they record, or both fail in the same way. -/
theorem SameCourse.advance (h : p.SameCourse q) :
  ∃ p' q' fault, p.advance o = (p', fault)
    ∧ q.advance { o with recordEvery := every } = (q', fault) ∧ p'.SameCourse q'
  := by
  refine ⟨_, _, _, rfl, Prod.ext rfl ?_, ?_⟩
  all_goals simp only [Progress.advance, h.simulation, h.pending, h.steps, h.events]
  all_goals split
  · rfl
  · rfl
  · exact ⟨rfl, rfl, rfl, rfl⟩
  · apply SameCourse.record_ite
    exact ⟨rfl, rfl, rfl, rfl⟩

/-- Runs that are the same go on together. -/
theorem SameCourse.goesOn (h : p.SameCourse q) :
  q.goesOn { o with recordEvery := every } = p.goesOn o
  := by
  rw [Progress.goesOn, Progress.goesOn, h.simulation]

/-- Runs that are the same end together, and fail in the same way if they do. -/
theorem SameCourse.loop (h : p.SameCourse q) (fuel : Nat) :
  ∃ p' q' fault, p.loop o fuel = (p', fault)
    ∧ q.loop { o with recordEvery := every } fuel = (q', fault) ∧ p'.SameCourse q'
  := by
  induction fuel generalizing p q with
  | zero => exact ⟨p, q, none, rfl, rfl, h⟩
  | succ fuel ih =>
    rw [Progress.loop, Progress.loop, h.goesOn]
    split
    next =>
      obtain ⟨p', q', fault, hp, hq, hnext⟩ := h.advance o every
      rw [hp, hq]
      cases fault with
      | some e => exact ⟨p', q', some e, rfl, rfl, hnext⟩
      | none => apply ih hnext
    next => exact ⟨p, q, none, rfl, rfl, h⟩

/-- Runs that are the same make the next step together. -/
theorem SameCourse.next? (h : p.SameCourse q) :
  Option.Rel SameCourse (p.next? o) (q.next? { o with recordEvery := every })
  := by
  rw [Progress.next?, Progress.next?, h.goesOn, h.steps]
  split
  next =>
    obtain ⟨p', q', fault, hp, hq, hnext⟩ := h.advance o every
    rw [hp, hq]
    cases fault with
    | some e => exact .none
    | none => exact .some hnext
  next => exact .none

/-- Runs that are the same make some more steps together. -/
theorem SameCourse.after? (h : p.SameCourse q) (k : Nat) :
  Option.Rel SameCourse (p.after? o k) (q.after? { o with recordEvery := every } k)
  := by
  induction k with
  | zero => exact .some h
  | succ k ih =>
    rw [Progress.after?, Progress.after?]
    generalize p.after? o k = x at ih ⊢
    generalize q.after? { o with recordEvery := every } k = y at ih ⊢
    cases ih with
    | none => exact .none
    | some hsame => apply hsame.next?

end Progress

/-- The states of a run do not depend on how often it records. -/
theorem stateAfter?_recordEvery (sim : Simulation) (o : Options) (every : Nat)
    (commands : List Scheduled) (k : Nat) :
  sim.stateAfter? { o with recordEvery := every } commands k = sim.stateAfter? o commands k
  := by
  have hsame := (Progress.SameCourse.refl (begun sim commands)).after? o every k
  rw [stateAfter?, stateAfter?]
  generalize (begun sim commands).after? o k = x at hsame ⊢
  generalize (begun sim commands).after? { o with recordEvery := every } k = y at hsame ⊢
  cases hsame with
  | none => rfl
  | some hsame => exact congrArg some hsame.simulation

/-- A run ends in the same state and fails in the same way, however often it records. -/
theorem run_recordEvery {o : Options} (ho : o.fault? = none) {every : Nat}
    (hevery : ({ o with recordEvery := every } : Options).fault? = none) (sim : Simulation)
    (commands : List Scheduled) :
  (sim.run { o with recordEvery := every } commands).simulation
      = (sim.run o commands).simulation
    ∧ (sim.run { o with recordEvery := every } commands).events = (sim.run o commands).events
    ∧ ∀ e, (sim.run { o with recordEvery := every } commands).result = .error e
      ↔ (sim.run o commands).result = .error e
  := by
  obtain ⟨p, q, fault, hp, hq, hsame⟩ :=
    (Progress.SameCourse.refl (begun sim commands)).loop o every o.maxSteps
  rw [run_of_loop ho hp, run_of_loop hevery hq]
  refine ⟨hsame.simulation, congrArg Array.toList hsame.events, ?_⟩
  intro e
  cases fault with
  | some e' => exact Iff.rfl
  | none => exact ⟨nofun, nofun⟩

/-! ### The states and the recordings of a run -/

/-- A run that makes some steps makes fewer of them before. -/
theorem Progress.exists_after?_of_le {o : Options} {p q : Progress} {k n : Nat} (hk : k ≤ n)
    (h : p.after? o n = some q) :
  ∃ r, p.after? o k = some r
  := by
  induction n generalizing q with
  | zero =>
    obtain rfl := Nat.le_zero.1 hk
    exact ⟨q, h⟩
  | succ n ih =>
    rcases Nat.lt_or_eq_of_le hk with hlt | rfl
    · obtain ⟨r, hr, -⟩ := Option.bind_eq_some_iff.1 h
      apply ih (Nat.le_of_lt_succ hlt) hr
    · exact ⟨q, h⟩

/-- A step adds a recording if its number is a multiple of those between two recordings. -/
theorem Progress.samples_advance {o : Options} {p q : Progress} (h : p.advance o = (q, none)) :
  q.samples.toList
    = p.samples.toList ++ if q.steps % o.recordEvery = 0 then q.simulation.snapshot else []
  := by
  rw [advance] at h
  simp only [record_ite] at h
  split at h
  next => simp at h
  next =>
    obtain ⟨rfl, -⟩ := Prod.mk.inj h
    exact Array.toList_appendList

/-- The simulation after some ticks of a run, or that at the start if the run makes fewer. -/
def stateAt (sim : Simulation) (o : Options) (commands : List Scheduled) (k : Nat) :
    Simulation :=
  (sim.stateAfter? o commands k).getD sim

/-- A run makes `n` ticks, and `state k` is its simulation after `k` of them. -/
structure Passes (sim : Simulation) (o : Options) (commands : List Scheduled) (n : Nat)
    (state : Nat → Simulation) : Prop where
  start : state 0 = sim
  tick : ∀ k < n, ∃ network,
    state (k + 1) = (Simulation.step { state k with network } o.dt).2.1
  lasts : o.Lasts (fun k => (state k).clock.time) n
  reached : ∀ k ≤ n, sim.stateAfter? o commands k = some (state k)

section

variable {sim : Simulation} {o : Options} {commands : List Scheduled}

theorem stateAt_of_after? {k : Nat} {q : Progress}
    (h : (begun sim commands).after? o k = some q) :
  sim.stateAt o commands k = q.simulation
  := by
  rw [stateAt, stateAfter?, h]
  rfl

/-- A run that has made some steps has recorded some of the states between them. -/
theorem samples_of_after? {n : Nat} {q : Progress}
    (h : (begun sim commands).after? o n = some q) :
  q.steps = n ∧ q.samples.toList
    = ((List.range (n + 1)).filter (· % o.recordEvery = 0)).flatMap
      fun k => (sim.stateAt o commands k).snapshot
  := by
  have hstate := stateAt_of_after? h
  induction n generalizing q with
  | zero =>
    cases h
    refine ⟨rfl, ?_⟩
    have hzero : (List.range (0 + 1)).filter (· % o.recordEvery = 0) = [0] := by simp
    rw [hzero, List.flatMap_singleton, hstate, begun, Progress.record, Array.toList_appendList]
    rfl
  | succ n ih =>
    obtain ⟨p, hp, hnext⟩ := Option.bind_eq_some_iff.1 h
    obtain ⟨hsteps, hsamples⟩ := ih hp (stateAt_of_after? hp)
    obtain ⟨-, -, hadvance⟩ := Progress.next?_eq_some_iff.1 hnext
    have hcount : q.steps = n + 1 := by
      rw [((Progress.advance_eq o p).1 q hadvance).2.2.2, hsteps]
    use hcount
    rw [Progress.samples_advance hadvance, hsamples, hcount, filter_mod_succ _ (n + 1),
      List.flatMap_append, ← hstate]
    congr 1
    split
    next => rw [List.flatMap_singleton]
    next => rw [List.flatMap_nil]

/-- The states of a run are those between its ticks. -/
theorem passes_of_after? {n : Nat} {q : Progress} (hle : n ≤ o.maxSteps)
    (h : (begun sim commands).after? o n = some q)
    (hlast : n = o.maxSteps ∨ q.goesOn o = false) :
  sim.Passes o commands n (sim.stateAt o commands)
  := by
  have htick : ∀ k < n, (sim.stateAt o commands k).clock.time < o.endTime ∧ ∃ network,
      sim.stateAt o commands (k + 1)
        = (Simulation.step { sim.stateAt o commands k with network } o.dt).2.1 := by
    intro k hk
    obtain ⟨r, hr⟩ := Progress.exists_after?_of_le hk h
    obtain ⟨p, hp, hnext⟩ := Option.bind_eq_some_iff.1 hr
    obtain ⟨-, hgoes, hadvance⟩ := Progress.next?_eq_some_iff.1 hnext
    rw [stateAt_of_after? hp, stateAt_of_after? hr]
    exact ⟨of_decide_eq_true hgoes, _, ((Progress.advance_eq o p).1 r hadvance).2.1⟩
  constructor
  case start => rfl
  case tick =>
    intro k hk
    apply (htick k hk).2
  case lasts =>
    constructor
    case allowed => apply hle
    case early =>
      intro k hk
      apply (htick k hk).1
    case last =>
      apply hlast.imp_right
      intro hends
      rw [stateAt_of_after? h]
      apply of_decide_eq_false hends
  case reached =>
    intro k hk
    obtain ⟨r, hr⟩ := Progress.exists_after?_of_le hk h
    rw [stateAt_of_after? hr, stateAfter?, hr, Option.map_some]

/-- A run that succeeds has recorded its states after some of its ticks. -/
theorem passes_of_run (ho : o.fault? = none) {samples : List Sample}
    (h : (sim.run o commands).result = .ok samples) :
  ∃ n, sim.Passes o commands n (sim.stateAt o commands)
    ∧ (sim.run o commands).simulation = sim.stateAt o commands n
    ∧ samples
      = (recorded o.recordEvery n).flatMap fun k => (sim.stateAt o commands k).snapshot
  := by
  obtain ⟨n, hle, q, hafter, -, ⟨hloop, hlast⟩ | ⟨q', e, -, hloop⟩⟩ :=
    Progress.loop_cases o o.maxSteps (begun sim commands) (Nat.zero_add _)
  · rw [run_of_loop ho hloop] at h ⊢
    cases h
    obtain ⟨hsteps, hsamples⟩ := samples_of_after? hafter
    refine ⟨n, passes_of_after? hle hafter hlast, (stateAt_of_after? hafter).symm, ?_⟩
    rw [hsteps, hsamples, recorded_eq, List.flatMap_append]
    congr 1
    split
    next => rfl
    next => rw [List.flatMap_singleton, stateAt_of_after? hafter]
  · rw [run_of_loop ho hloop] at h
    cases h

end

/-! ### The times of a run -/

section

variable {sim : Simulation} {o : Options} {commands : List Scheduled} {n : Nat}
  {state : Nat → Simulation}

/-- A clock that runs and was not asked for a jump goes on so in a run. -/
theorem Passes.clock (h : sim.Passes o commands n state) (hrunning : sim.clock.paused = false)
    (hsteady : sim.clock.target = none) {k : Nat} (hk : k ≤ n) :
  (state k).clock.paused = false ∧ (state k).clock.target = none
  := by
  induction k with
  | zero =>
    rw [h.start]
    exact ⟨hrunning, hsteady⟩
  | succ k ih =>
    obtain ⟨network, hstate⟩ := h.tick k hk
    rw [hstate]
    exact ⟨(ih (Nat.le_of_lt hk)).1, rfl⟩

/-- The time does not go back in a run. -/
theorem Passes.time_le (h : sim.Passes o commands n state) (ho : o.fault? = none)
    (hrunning : sim.clock.paused = false) (hsteady : sim.clock.target = none) {i j : Nat}
    (hij : i < j) (hj : j ≤ n) :
  (state i).clock.time ≤ (state j).clock.time
  := by
  obtain ⟨hfinite, hpos⟩ := dt_of_fault? ho
  have hstep : ∀ k < n, (state k).clock.time ≤ (state (k + 1)).clock.time := by
    intro k hk
    obtain ⟨hpaused, htarget⟩ := h.clock hrunning hsteady (Nat.le_of_lt hk)
    obtain ⟨network, hstate⟩ := h.tick k hk
    have htime : (state (k + 1)).clock.time = (state k).clock.time + o.dt := by
      rw [hstate]
      simp [step, Clock.step, Clock.advance, hpaused, htarget]
    rw [htime]
    apply Binary64.le_add (Binary64.lt_iff.1 (h.lasts.early k hk)).1 hfinite hpos
  induction j, hij using Nat.le_induction with
  | base => apply hstep i hj
  | succ j _ ih =>
    apply Binary64.le_trans (ih (Nat.le_of_lt hj)) (hstep j hj)

end

/-! ### Which states are recorded -/

/-- The multiples of a number are counted by the quotients. -/
theorem filter_range_mod (every n : Nat) :
  (List.range (n + 1)).filter (· % every = 0) = (List.range (n / every + 1)).map (every * ·)
  := by
  induction n with
  | zero => simp
  | succ n ih =>
    rw [filter_mod_succ, ih, Nat.succ_div]
    by_cases hdvd : every ∣ n + 1
    · have hquotient := Nat.mul_div_cancel' hdvd
      rw [Nat.succ_div, if_pos hdvd] at hquotient
      rw [if_pos (Nat.mod_eq_zero_of_dvd hdvd), if_pos hdvd,
        List.range_succ (n := n / every + 1), List.map_append, List.map_singleton, hquotient]
    · rw [if_neg (mt Nat.dvd_of_mod_eq_zero hdvd), if_neg hdvd, List.append_nil, Nat.add_zero]

/-- The states that are recorded come one after the other, and the last one is the end. -/
theorem recorded_increasing (every n : Nat) :
  (recorded every n).Pairwise (· < ·) ∧ (recorded every n).getLast? = some n
  := by
  constructor
  · apply List.pairwise_lt_range.filter
  · rw [recorded, List.range_succ, List.filter_append,
      List.filter_cons_of_pos (by simp), List.filter_nil, List.getLast?_concat]

/-- Some samples are those of the joints of a simulation: every joint is listed once, in the order
of their creation. -/
structure ListsJoints (sim : Simulation) (joints : List Entity) (samples : List Sample) :
    Prop where
  samples : samples = joints.map (Sample.ofJoint sim.store sim.clock.time)
  members : ∀ e, e ∈ joints ↔ sim.store.has e = true ∧ sim.store.hasRecord e .joint = true
  order : joints.Pairwise (·.index < ·.index)

/-- A snapshot lists the joints. -/
theorem listsJoints_snapshot (sim : Simulation) :
  sim.ListsJoints (sim.store.withAttribute .joint) sim.snapshot
  := by
  constructor
  case samples => rfl
  case members =>
    intro e
    rw [Store.mem_withAttribute_iff]
    constructor
    · intro hjoint
      obtain ⟨v, hv⟩ := Option.isSome_iff_exists.1 hjoint
      exact ⟨Store.has_of_get? hv, hjoint⟩
    · apply And.right
  case order => apply Store.withAttribute_increasing

/-- Recording only observes.  A run that records the joints after every few ticks ends in the same
state as one that records them after every tick, and it fails in the same way if that does.  If it
succeeds, then of the recordings of the latter it has the first one, every further one after as many
ticks as are asked for, and the last one, none of them twice.  Each recording lists every joint once
in the order of their creation, and if the clock runs at the start and is not asked for a jump, then
their times do not go back. -/
theorem recording_observes {o : Options} (ho : o.fault? = none) (sim : Simulation)
    (commands : List Scheduled) :
  let seldom := sim.run o commands
  let always := sim.run { o with recordEvery := 1 } commands
  seldom.simulation = always.simulation ∧ seldom.events = always.events
    ∧ (∀ e, seldom.result = .error e ↔ always.result = .error e)
    ∧ ∀ samples, seldom.result = .ok samples →
      ∃ (n : Nat) (state : Nat → Simulation) (ticks : List Nat), sim.Passes o commands n state
      ∧ state n = seldom.simulation
      ∧ always.result = .ok ((List.range (n + 1)).flatMap fun k => (state k).snapshot)
      ∧ samples = ticks.flatMap (fun k => (state k).snapshot)
      ∧ ticks = (List.range (n / o.recordEvery + 1)).map (o.recordEvery * ·)
        ++ (if n % o.recordEvery = 0 then [] else [n])
      ∧ ticks.Pairwise (· < ·) ∧ ticks.getLast? = some n
      ∧ (∀ k, ∃ joints, (state k).ListsJoints joints (state k).snapshot)
      ∧ (sim.clock.paused = false → sim.clock.target = none →
          ∀ i j, i < j → j ≤ n → (state i).clock.time ≤ (state j).clock.time)
  := by
  intro seldom always
  obtain ⟨hdt, htime, hsteps, -⟩ := Options.fault?_eq_none_iff.1 ho
  have halways : ({ o with recordEvery := 1 } : Options).fault? = none :=
    Options.fault?_eq_none_iff.2 ⟨hdt, htime, hsteps, Nat.one_ne_zero⟩
  obtain ⟨hsimulation, hevents, herror⟩ := run_recordEvery ho halways sim commands
  refine ⟨hsimulation.symm, hevents.symm, fun e => (herror e).symm, ?_⟩
  intro samples hseldom
  obtain ⟨n, hpasses, hfinish, hsamples⟩ := passes_of_run ho hseldom
  have hresult : always.result
      = .ok ((List.range (n + 1)).flatMap fun k => (sim.stateAt o commands k).snapshot) := by
    cases hresult : always.result with
    | error e =>
      rw [(herror e).1 hresult] at hseldom
      cases hseldom
    | ok samples' =>
      obtain ⟨n', hpasses', -, hsamples'⟩ := passes_of_run halways hresult
      have hstate : sim.stateAt { o with recordEvery := 1 } commands = sim.stateAt o commands := by
        funext k
        rw [stateAt, stateAfter?_recordEvery, stateAt]
      rw [hstate] at hpasses' hsamples'
      have hlasts : o.Lasts (fun k => (sim.stateAt o commands k).clock.time) n' :=
        ⟨hpasses'.lasts.allowed, hpasses'.lasts.early, hpasses'.lasts.last⟩
      obtain rfl := hlasts.eq hpasses.lasts
      rw [hsamples', recorded_one]
  refine ⟨n, sim.stateAt o commands, recorded o.recordEvery n, hpasses, hfinish.symm, hresult,
    hsamples, ?_, (recorded_increasing _ n).1, (recorded_increasing _ n).2,
    fun k => ⟨_, listsJoints_snapshot _⟩,
    fun hrunning hsteady i j hij hj => hpasses.time_le ho hrunning hsteady hij hj⟩
  rw [recorded_eq, filter_range_mod]

/-- A wheel that is pushed. -/
def rollingWheel : Simulation where
  store := {
    allocator := ⟨1⟩
    entries := [(⟨0, Entity.capacity_pos⟩, { joint := some (), forceCommand := some [1] })]
    increasing := by simp
    issued := by simp }
  systems := [.dynamics ⟨1, 0⟩]

/-- Of the three ticks of a run, every second one is recorded besides the last one. -/
theorem recording_observes_rollingWheel :
  let o : Options := ⟨0.25, 0.75, 10, 2⟩
  let seldom := rollingWheel.run o []
  ∃ samples, seldom.result = .ok samples ∧ samples.map (·.time) = [0, 0.5, 0.75]
    ∧ ∃ (n : Nat) (state : Nat → Simulation) (ticks : List Nat),
      rollingWheel.Passes o [] n state ∧ (state n).clock.time = 0.75
      ∧ samples = ticks.flatMap (fun k => (state k).snapshot)
      ∧ ticks.Pairwise (· < ·) ∧ ticks.getLast? = some n
  := by
  intro o seldom
  have ho : o.fault? = none := by decide +kernel
  have htimes : seldom.result.toOption.map (·.map (·.time)) = some [0, 0.5, 0.75] := by
    decide +kernel
  have hend : seldom.simulation.clock.time = 0.75 := by decide +kernel
  obtain ⟨samples, hsamples, htimes⟩ := Option.map_eq_some_iff.1 htimes
  have hresult := eq_ok_of_toOption hsamples
  obtain ⟨-, -, -, hobserved⟩ := recording_observes ho rollingWheel []
  obtain ⟨n, state, ticks, hpasses, hfinish, -, hticks, -, hincreasing, hlast, -⟩ :=
    hobserved samples hresult
  refine ⟨samples, hresult, htimes, n, state, ticks, hpasses, ?_, hticks, hincreasing, hlast⟩
  rw [hfinish, hend]

end Servo.Simulation
