import Servo.Proofs.Binary64.Addition
import Servo.Proofs.Simulation.Bench
import Servo.Proofs.Simulation.Rounds

/-!
# The course of a run

A run of a fresh simulation with valid commands goes the way that can be told beforehand
(`stage_of_after?`): its ticks start at the times of `tickTime`, until the start of a tick
exactly the commands that are due are published (`heard`), and every joint is where its bench
is after as many ticks (`benchAt`).
-/

namespace Servo.Simulation

open Controller

/-! ### Options -/

/-- Options have no fault exactly if all of them are in their ranges. -/
theorem Options.fault?_eq_none_iff {o : Options} :
  o.fault? = none ↔ (o.dt.isFinite = true ∧ 0 < o.dt)
    ∧ (o.endTime.isFinite = true ∧ 0 ≤ o.endTime) ∧ o.maxSteps ≠ 0 ∧ o.recordEvery ≠ 0
  := by
  rw [fault?]
  split
  next h =>
    constructor
    · nofun
    · rintro ⟨hdt, -⟩
      exact absurd hdt h
  next hdt =>
    have hdt := Decidable.of_not_not hdt
    split
    next h =>
      constructor
      · nofun
      · rintro ⟨-, htime, -⟩
        exact absurd htime h
    next htime =>
      have htime := Decidable.of_not_not htime
      by_cases hsteps : o.maxSteps = 0
      · simp [hsteps]
      · simp [hdt, htime, hsteps]

theorem dt_of_fault? {o : Options} (h : o.fault? = none) :
  o.dt.isFinite = true ∧ 0 < o.dt
  := (Options.fault?_eq_none_iff.1 h).1

/-! ### Times -/

/-- The time after some ticks of the length `dt`, which is the start of the next one. -/
def tickTime (dt : Float) : Nat → Float
  | 0 => 0
  | k + 1 => tickTime dt k + dt

section

variable {dt : Float} (hfinite : dt.isFinite = true) (hpos : 0 < dt)
include hfinite hpos

/-- The time is a number. -/
theorem isNaN_tickTime (k : Nat) :
  (tickTime dt k).isNaN = false
  := by
  induction k with
  | zero =>
    show (0 : Float).isNaN = false
    decide +kernel
  | succ k ih => apply (Binary64.le_iff.1 (Binary64.le_add ih hfinite hpos)).2.1

/-- The time does not go back. -/
theorem tickTime_le_succ (k : Nat) :
  tickTime dt k ≤ tickTime dt (k + 1)
  := Binary64.le_add (isNaN_tickTime hfinite hpos k) hfinite hpos

end

/-- The times of a clock that starts at zero and runs are those of `tickTime`. -/
theorem startTime_eq_tickTime {sim : Simulation} {cs : List Controller} {d : Dynamics Float}
    (hrigged : sim.Rigged cs d) (htime : sim.clock.time = 0) (dt : Float) (k : Nat) :
  sim.startTime dt k = tickTime dt k
  := by
  have hafter : (sim.clock.after dt k).paused = false ∧ (sim.clock.after dt k).target = none
      ∧ (sim.clock.after dt k).time = tickTime dt k := by
    induction k with
    | zero => exact ⟨hrigged.running, hrigged.steady, htime⟩
    | succ k ih =>
      obtain ⟨hpaused, htarget, hk⟩ := ih
      refine ⟨hpaused, rfl, ?_⟩
      rw [Clock.after, Clock.step, Clock.advance, htarget, hpaused, hk]
      rfl
  exact hafter.2.2

/-! ### Commands -/

/-- The commands of an agenda that are published before some number of ticks is made. -/
def heard (dt : Float) (commands : List Scheduled) : Nat → List Scheduled
  | 0 => []
  | k + 1 => (agenda commands).takeWhile (isDue (tickTime dt k))

/-- The commands that were published are due at the next tick. -/
theorem isDue_of_mem_heard {dt : Float} (hfinite : dt.isFinite = true) (hpos : 0 < dt)
    {commands : List Scheduled} {k : Nat} {c : Scheduled} (h : c ∈ heard dt commands k) :
  isDue (tickTime dt k) c = true
  := by
  cases k with
  | zero => cases h
  | succ k =>
    apply isDue_mono (tickTime_le_succ hfinite hpos k)
    have hall := List.all_takeWhile (l := agenda commands) (p := isDue (tickTime dt k))
    apply List.all_eq_true.1 hall c h

/-- Publishing what is due at the next tick completes what is heard. -/
theorem heard_succ {dt : Float} (hfinite : dt.isFinite = true) (hpos : 0 < dt)
    {commands pending : List Scheduled} {k : Nat}
    (h : heard dt commands k ++ pending = agenda commands) :
  heard dt commands (k + 1)
      = heard dt commands k ++ pending.takeWhile (isDue (tickTime dt k))
    ∧ heard dt commands (k + 1) ++ pending.dropWhile (isDue (tickTime dt k))
      = agenda commands
  := by
  have htake : heard dt commands (k + 1)
      = heard dt commands k ++ pending.takeWhile (isDue (tickTime dt k)) := by
    rw [heard, ← h]
    apply List.takeWhile_append_of_pos
    intro c hc
    apply isDue_of_mem_heard hfinite hpos hc
  use htake
  rw [htake, List.append_assoc, List.takeWhile_append_dropWhile, h]

/-! ### Benches -/

/-- A bench after some ticks. -/
def benchAt (e : Entity) (d : Dynamics Float) (dt : Float) (n : Network)
    (commands : List Scheduled) (x : Bench) : Nat → Bench
  | 0 => x
  | k + 1 =>
    (benchAt e d dt n commands x k).tick e d dt (published n (heard dt commands (k + 1))).inboxes

/-! ### Stages -/

/-- What a run of the simulation `sim` with the controllers `cs` is after `k` ticks. -/
structure Stage (sim : Simulation) (cs : List Controller) (d : Dynamics Float) (dt : Float)
    (commands : List Scheduled) (k : Nat) (p : Progress) : Prop where
  network : p.simulation.network = published sim.network (heard dt commands k)
  pending : heard dt commands k ++ p.pending = agenda commands
  time : p.simulation.clock.time = tickTime dt k
  outline : sim.store.SameOutline p.simulation.store
  benches : ∃ cs', p.simulation.Rigged cs' d
    ∧ ∀ {e x}, sim.OnBench cs e x →
      p.simulation.OnBench cs' e (benchAt e d dt sim.network commands x k)

theorem Stage.addressed {sim : Simulation} {cs : List Controller} {d : Dynamics Float}
    {dt : Float} {commands : List Scheduled} {k : Nat} {p : Progress}
    (h : Stage sim cs d dt commands k p) (hcommands : Addressed commands) :
  Addressed p.pending
  := by
  intro c hc
  apply hcommands
  rw [← mem_agenda, ← h.pending]
  apply List.mem_append_right _ hc

/-- One step leads from a stage to the next one. -/
theorem Stage.next {sim : Simulation} {cs : List Controller} {d : Dynamics Float}
    {o : Options} (ho : o.fault? = none) {commands : List Scheduled}
    (hcommands : Addressed commands) {k : Nat} {p q : Progress}
    (h : Stage sim cs d o.dt commands k p) (hq : p.next? o = some q) :
  Stage sim cs d o.dt commands (k + 1) q
  := by
  obtain ⟨hfinite, hpos⟩ := dt_of_fault? ho
  obtain ⟨-, -, hadvance⟩ := Progress.next?_eq_some_iff.1 hq
  obtain ⟨-, hsim, hpending, -⟩ := (Progress.advance_eq o p).1 q hadvance
  obtain ⟨hnetwork, hleft, -⟩ :=
    publishDue_eq (h.addressed hcommands) p.simulation.clock.time p.simulation.network
  obtain ⟨hheard, hagenda⟩ := heard_succ hfinite hpos h.pending
  have hpublished : (publishDue p.simulation.clock.time p.simulation.network p.pending).network
      = published sim.network (heard o.dt commands (k + 1)) := by
    rw [hnetwork, h.network, ← published_append, h.time, hheard]
  obtain ⟨cs', hrigged, hbenches⟩ := h.benches
  let ready : Simulation :=
    { p.simulation with network := published sim.network (heard o.dt commands (k + 1)) }
  have hready : ready.Rigged cs' d := ⟨hrigged.systems, hrigged.running, hrigged.steady⟩
  rw [hpublished] at hsim
  obtain ⟨hrigged', -, hnetwork', htime⟩ := hready.step o.dt
  constructor
  case network => rw [hsim, hnetwork']
  case pending => rw [hpending, hleft, h.time, hagenda]
  case time => rw [hsim, htime, tickTime, ← h.time]
  case outline =>
    rw [hsim]
    apply h.outline.trans (ready.outline_step o.dt)
  case benches =>
    refine ⟨_, hsim ▸ hrigged', ?_⟩
    intro e x hx
    rw [hsim]
    apply hready.bench_step ((hbenches hx).withNetwork _) o.dt

/-- A run of a fresh simulation goes through one stage after the other. -/
theorem stage_of_after? {sim : Simulation} {cs : List Controller} {d : Dynamics Float}
    (hrigged : sim.Rigged cs d) (htime : sim.clock.time = 0) {o : Options}
    (ho : o.fault? = none) {commands : List Scheduled} (hcommands : Addressed commands)
    {k : Nat} {p : Progress} (hp : (begun sim commands).after? o k = some p) :
  Stage sim cs d o.dt commands k p
  := by
  induction k generalizing p with
  | zero =>
    cases hp
    constructor
    case network => rfl
    case pending => rfl
    case time => apply htime
    case outline => apply Store.SameOutline.refl
    case benches => use cs, ⟨hrigged.systems, hrigged.running, hrigged.steady⟩, id
  | succ k ih =>
    obtain ⟨q, hq, hnext⟩ := Option.bind_eq_some_iff.1 hp
    apply (ih hq).next ho hcommands hnext

/-- A run of a fresh simulation succeeds, and it ends after its last tick. -/
theorem run_of_rigged {sim : Simulation} {cs : List Controller} {d : Dynamics Float}
    (hrigged : sim.Rigged cs d) (htime : sim.clock.time = 0) {o : Options}
    (ho : o.fault? = none) {commands : List Scheduled} (hcommands : Addressed commands) :
  (∃ samples, (sim.run o commands).result = .ok samples)
    ∧ ∃ n, sim.stateAfter? o commands n = some (sim.run o commands).simulation
      ∧ sim.stateAfter? o commands (n + 1) = none
  := by
  obtain ⟨n, q, hafter, hlast, ⟨hresult, hsim⟩ | ⟨q', e, hadvance, -⟩⟩ :=
    run_cases ho sim commands
  · refine ⟨hresult, n, ?_, ?_⟩
    · rw [stateAfter?, hafter, hsim, Option.map_some]
    · rw [stateAfter?, Progress.after?, hafter, Option.bind_some, hlast, Option.map_none]
  · have hstage := stage_of_after? hrigged htime ho hcommands hafter
    have hfault := ((Progress.advance_eq o q).2 q' e hadvance).1
    rw [(publishDue_eq (hstage.addressed hcommands) _ _).2.2] at hfault
    cases hfault

end Servo.Simulation
