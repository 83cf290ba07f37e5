import Servo.Proofs.Controller.Tick
import Servo.Proofs.Simulation.Rounds

/-!
# The timetable of a run

Whatever the clock of a simulation does, a run keeps its `Timetable` (`run_keeps_timetable`): it
ends after the allowed number of ticks or at the end time, it publishes every command that is due
at the start of some tick once, immediately before the first such tick, in the order of the
agenda, and it warns of those that nobody hears.
-/

namespace Servo

/-- The topic of a command that reached nobody, if an event notes one. -/
def Log.Event.unheard? : Log.Event → Option String
  | .unheard topic => some topic
  | _ => none

/-! ### Warnings -/

namespace Controller

/-- A tick of a controller warns of no command. -/
theorem filterMap_unheard?_step (c : Controller) (tick : Tick Float) (b : Inboxes) (s : Store) :
  (c.step tick b s).events.filterMap Log.Event.unheard? = []
  := by
  apply List.filterMap_eq_nil_iff.2
  intro x hx
  have hnote := isNote_of_mem_events_step hx
  cases x <;> first | rfl | cases hnote

end Controller

/-- The first phase of a tick warns of no command. -/
theorem System.filterMap_unheard?_inPhase (tick : Tick Float) (b : Inboxes)
    (systems : List System) (s : Store) :
  (hooks.inPhase .prepare tick b s systems).2.2.filterMap Log.Event.unheard? = []
  := by
  induction systems generalizing s with
  | nil => rfl
  | cons system rest ih =>
    simp only [inPhase_cons, List.filterMap_append, ih, List.append_nil]
    cases system with
    | controller c =>
      simp only [prepare, List.filterMap_append, Controller.filterMap_unheard?_step]
      rfl
    | dynamics d => rfl

namespace Simulation

namespace Performance

/-- A publication warns of its command if nobody hears it. -/
theorem filterMap_unheard?_publish {c : Scheduled} {t : Topic}
    (h : Topic.ofString c.topic = .ok t) (x : Performance) :
  (x.publish c).events.filterMap Log.Event.unheard?
    = x.events.filterMap Log.Event.unheard?
      ++ if x.simulation.network.audience c.topic = [] then [c.topic] else []
  := by
  obtain ⟨p, hp, hpublish, -⟩ := publish_of_ok h x
  have hreached : p.reached = (x.simulation.network.bus.subscribers t).length
      ∧ p.events.filterMap Log.Event.unheard? = [] := by
    rw [Network.publish, h] at hp
    cases hp
    refine ⟨rfl, ?_⟩
    dsimp only
    split <;> rfl
  rw [hpublish, List.filterMap_append, List.filterMap_append, hreached.1, hreached.2,
    List.append_nil, Network.audience, h]
  simp only [List.length_eq_zero_iff]
  split <;> rfl

/-- The publication of some commands warns of those that nobody hears. -/
theorem filterMap_unheard?_foldl_publish {commands : List Scheduled} (h : Addressed commands)
    (x : Performance) :
  (commands.foldl publish x).events.filterMap Log.Event.unheard?
    = x.events.filterMap Log.Event.unheard?
      ++ (commands.filter fun c => x.simulation.network.audience c.topic = []).map (·.topic)
  := by
  induction commands generalizing x with
  | nil => simp
  | cons c rest ih =>
    obtain ⟨⟨t, ht⟩, hrest⟩ := List.forall_mem_cons.1 h
    obtain ⟨p, -, hpublish, hnetwork⟩ := publish_of_ok ht x
    have haudience : ∀ text, (x.publish c).simulation.network.audience text
        = x.simulation.network.audience text := by
      intro text
      rw [hpublish, hnetwork]
      apply audience_published x.simulation.network [c]
    rw [List.foldl_cons, ih hrest, filterMap_unheard?_publish ht, List.append_assoc]
    simp only [haudience]
    by_cases hnobody : x.simulation.network.audience c.topic = []
    · rw [if_pos hnobody, List.filter_cons_of_pos (by simp [hnobody])]
      rfl
    · rw [if_neg hnobody, List.filter_cons_of_neg (by simp [hnobody])]
      rfl

end Performance

variable {commands : List Scheduled}

/-- The rounds of a run publish what is aired. -/
theorem flatten_batches (h : Numeric commands) (start : Nat → Float) (n : Nat) :
  ((List.range n).map (batch start commands)).flatten = aired start commands n
  := by
  induction n with
  | zero =>
    rw [aired, eq_comm, List.range_zero, List.map_nil, List.flatten_nil, List.filter_eq_nil_iff]
    intro c _ hc
    cases hc
  | succ n ih =>
    rw [List.range_succ, List.map_append, List.flatten_append, ih, aired_succ h]
    simp

/-- A run warns of the commands that are aired and that nobody hears. -/
theorem filterMap_unheard?_performance (hnumeric : Numeric commands)
    (haddressed : Addressed commands) (sim : Simulation) (dt : Float) (n : Nat) :
  (sim.performance dt commands n).events.filterMap Log.Event.unheard?
    = ((aired (sim.startTime dt) commands n).filter
        fun c => sim.network.audience c.topic = []).map (·.topic)
  := by
  induction n with
  | zero =>
    rw [← flatten_batches hnumeric]
    rfl
  | succ n ih =>
    have hpublish := Performance.filterMap_unheard?_foldl_publish
      (haddressed.parts (sim.startTime dt) n).1 (sim.performance dt commands n)
    have haudience : ∀ text, (sim.performance dt commands n).simulation.network.audience text
        = sim.network.audience text := by
      intro text
      rw [network_performance hnumeric haddressed, audience_published]
    simp only [haudience] at hpublish
    rw [performance_succ, Performance.round, Performance.tick]
    simp only [Simulation.step, System.work_eq, List.filterMap_append,
      System.filterMap_unheard?_inPhase, List.append_nil]
    rw [hpublish, ih, aired_succ hnumeric, List.filter_append, List.map_append]

/-! ### The order of the commands -/

/-- The commands of one moment keep their order in the agenda. -/
theorem filter_rank_agenda (commands : List Scheduled) (r : Int) :
  (agenda commands).filter (·.moment.rank = r) = commands.filter (·.moment.rank = r)
  := by
  induction commands with
  | nil => rw [agenda, List.mergeSort_nil]
  | cons c rest ih =>
    obtain ⟨before, after, hcons, hsplit, hbefore⟩ := agenda_cons c rest
    rw [hsplit, List.filter_append] at ih
    rw [hcons, List.filter_append]
    by_cases hr : c.moment.rank = r
    · have hnone : before.filter (·.moment.rank = r) = [] := by
        rw [List.filter_eq_nil_iff]
        intro b hb
        have hlt := hbefore b hb
        rw [hr] at hlt
        simp [Int.ne_of_lt hlt]
      rw [hnone, List.nil_append] at ih
      rw [hnone, List.nil_append, List.filter_cons_of_pos (by simp [hr]),
        List.filter_cons_of_pos (by simp [hr]), ih]
    · rw [List.filter_cons_of_neg (by simp [hr]), List.filter_cons_of_neg (by simp [hr]), ih]

/-! ### The timetable -/

/-- The time at which the tick of the round number `k` starts, counted from zero; behind the
last round it is the time at the end. -/
def roundStart (sim : Simulation) (dt : Float) (rounds : List (List Scheduled)) (k : Nat) :
    Float :=
  (Performance.perform dt ⟨sim, []⟩ (rounds.take k)).simulation.clock.time

/-- The rounds of a run keep to its options and its commands. -/
structure Timetable (sim : Simulation) (o : Options) (commands : List Scheduled)
    (rounds : List (List Scheduled)) : Prop where
  /-- There are not more ticks than allowed. -/
  allowed : rounds.length ≤ o.maxSteps
  /-- Every tick starts before the end time. -/
  early : ∀ k < rounds.length, sim.roundStart o.dt rounds k < o.endTime
  /-- The run does not end before it has to. -/
  last : rounds.length = o.maxSteps ∨ ¬ sim.roundStart o.dt rounds rounds.length < o.endTime
  /-- A command is published immediately before the first tick at whose start it is due. -/
  punctual : ∀ {k round}, rounds[k]? = some round → ∀ c ∈ round,
    isDue (sim.roundStart o.dt rounds k) c = true
      ∧ ∀ i < k, isDue (sim.roundStart o.dt rounds i) c = false
  /-- The commands that are published are those that are due at the start of some tick. -/
  complete : ∀ c, c ∈ rounds.flatten ↔
    c ∈ commands ∧ ∃ k < rounds.length, isDue (sim.roundStart o.dt rounds k) c = true
  /-- The commands are published in the order of their moments. -/
  ordered : rounds.flatten.Pairwise (·.moment.rank ≤ ·.moment.rank)
  /-- Each command is published once, and those of one moment in the order of the schedule. -/
  once : ∀ r : Int, rounds.flatten.filter (·.moment.rank = r)
    = commands.filter fun c =>
      c.moment.rank = r ∧ isAired (sim.roundStart o.dt rounds) rounds.length c

theorem roundStart_eq (haddressed : Addressed commands) (sim : Simulation) (dt : Float)
    {n k : Nat} (hk : k ≤ n) :
  sim.roundStart dt ((List.range n).map (batch (sim.startTime dt) commands)) k
    = sim.startTime dt k
  := by
  rw [roundStart, ← List.map_take, List.take_range, Nat.min_eq_left hk]
  exact congrArg (·.time) (clock_performance haddressed sim dt k)

/-- A command is aired at the starts of the same rounds. -/
theorem isAired_congr {start start' : Nat → Float} {n : Nat}
    (h : ∀ k < n, start k = start' k) (c : Scheduled) :
  isAired start n c = isAired start' n c
  := by
  rw [Bool.eq_iff_iff, isAired_iff, isAired_iff]
  constructor
  · rintro ⟨k, hk, hdue⟩
    exact ⟨k, hk, h k hk ▸ hdue⟩
  · rintro ⟨k, hk, hdue⟩
    exact ⟨k, hk, (h k hk).symm ▸ hdue⟩

/-- The batches of as many rounds as a run makes are a timetable. -/
theorem timetable_batches (hnumeric : Numeric commands) (haddressed : Addressed commands)
    (sim : Simulation) {o : Options} {n : Nat} (hn : o.Lasts (sim.startTime o.dt) n) :
  Timetable sim o commands ((List.range n).map (batch (sim.startTime o.dt) commands))
  := by
  obtain ⟨rounds, hrounds⟩ : ∃ rounds, rounds
    = (List.range n).map (batch (sim.startTime o.dt) commands) := ⟨_, rfl⟩
  have hlength : rounds.length = n := by rw [hrounds, List.length_map, List.length_range]
  have hstart : ∀ k ≤ n, sim.roundStart o.dt rounds k = sim.startTime o.dt k := by
    intro k hk
    rw [hrounds, roundStart_eq haddressed sim o.dt hk]
  have hflatten : rounds.flatten = aired (sim.startTime o.dt) commands n := by
    rw [hrounds, flatten_batches hnumeric]
  have haired : ∀ c, isAired (sim.roundStart o.dt rounds) n c
      = isAired (sim.startTime o.dt) n c :=
    isAired_congr fun k hk => hstart k (Nat.le_of_lt hk)
  rw [← hrounds]
  constructor
  case allowed =>
    rw [hlength]
    apply hn.allowed
  case early =>
    intro k hk
    rw [hlength] at hk
    rw [hstart k (Nat.le_of_lt hk)]
    apply hn.early k hk
  case last =>
    rw [hlength, hstart n (Nat.le_refl n)]
    apply hn.last
  case punctual =>
    intro k round hround c hc
    rw [hrounds, List.getElem?_map, Option.map_eq_some_iff] at hround
    obtain ⟨i, hi, rfl⟩ := hround
    obtain ⟨hk, hik⟩ := List.getElem?_eq_some_iff.1 hi
    rw [List.getElem_range] at hik
    subst hik
    have hle : k ≤ n := Nat.le_of_lt (by simpa using hk)
    obtain ⟨hdue, hearlier⟩ := Bool.and_eq_true_iff.1 (List.mem_filter.1 hc).2
    rw [hstart k hle]
    use hdue
    intro i hi
    rw [hstart i (Nat.le_trans (Nat.le_of_lt hi) hle)]
    apply Bool.eq_false_iff.2
    intro hdue'
    rw [isAired_iff.2 ⟨i, hi, hdue'⟩] at hearlier
    cases hearlier
  case complete =>
    intro c
    rw [hflatten, hlength, aired, List.mem_filter, mem_agenda, ← haired, isAired_iff]
  case ordered =>
    rw [hflatten]
    apply (pairwise_agenda commands).filter
  case once =>
    intro r
    rw [hflatten, hlength]
    calc (aired (sim.startTime o.dt) commands n).filter (·.moment.rank = r)
        = ((agenda commands).filter (·.moment.rank = r)).filter
          (isAired (sim.startTime o.dt) n) := by
          rw [aired, List.filter_comm]
      _ = (commands.filter (·.moment.rank = r)).filter (isAired (sim.startTime o.dt) n) := by
          rw [filter_rank_agenda]
      _ = commands.filter fun c =>
          c.moment.rank = r ∧ isAired (sim.roundStart o.dt rounds) n c := by
          rw [List.filter_filter]
          apply List.filter_congr
          intro c _
          rw [haired, Bool.and_comm, Bool.decide_and, Bool.decide_eq_true]

/-- A run of whatever simulation keeps a timetable: it ends without failure, it performs the
rounds of the timetable, and it warns of exactly those commands that are published and that
nobody hears. -/
theorem run_keeps_timetable {o : Options} (ho : o.fault? = none)
    (hnumeric : Numeric commands) (haddressed : Addressed commands) (sim : Simulation) :
  ∃ rounds, Timetable sim o commands rounds
    ∧ (∃ samples, (sim.run o commands).result = .ok samples)
    ∧ (sim.run o commands).simulation = (Performance.perform o.dt ⟨sim, []⟩ rounds).simulation
    ∧ (sim.run o commands).events = (Performance.perform o.dt ⟨sim, []⟩ rounds).events
    ∧ (sim.run o commands).events.filterMap Log.Event.unheard?
      = (rounds.flatten.filter fun c => sim.network.audience c.topic = []).map (·.topic)
  := by
  obtain ⟨n, hn⟩ := o.exists_lasts (sim.startTime o.dt)
  refine ⟨_, timetable_batches hnumeric haddressed sim hn, ?_⟩
  rw [run_eq ho hnumeric haddressed sim hn, flatten_batches hnumeric]
  exact ⟨⟨_, rfl⟩, rfl, rfl, filterMap_unheard?_performance hnumeric haddressed sim o.dt n⟩

/-- A run over a second, in steps of a quarter. -/
def quarters : Options where
  dt := 0.25
  endTime := 1

/-- Two commands of which the first one is due at the end of `quarters` only. -/
def earlyAndLate : List Scheduled := [⟨.time 1, "late", 1⟩, ⟨.time 0.5, "early", 2⟩]

/-- In a run that jumps over half of its time, the command for that time is published, and the
one for the end is not. -/
theorem run_keeps_timetable_earlyAndLate :
  ∃ rounds, Timetable (Simulation.seek {} 0.5) quarters earlyAndLate rounds
    ∧ rounds.flatten.map (·.topic) = ["early"]
  := by
  have hnumeric : Numeric earlyAndLate := by
    intro c hc
    simp only [earlyAndLate, List.mem_cons, List.not_mem_nil, or_false] at hc
    rcases hc with rfl | rfl
    · exact ⟨1, rfl, by decide +kernel⟩
    · exact ⟨0.5, rfl, by decide +kernel⟩
  have haddressed : Addressed earlyAndLate := by
    intro c hc
    simp only [earlyAndLate, List.mem_cons, List.not_mem_nil, or_false] at hc
    rcases hc with rfl | rfl
    · exact ⟨⟨"/late"⟩, by decide +kernel⟩
    · exact ⟨⟨"/early"⟩, by decide +kernel⟩
  have hoptions : quarters.fault? = none := by decide +kernel
  obtain ⟨rounds, hrounds, -, -, -, hwarned⟩ :=
    run_keeps_timetable hoptions hnumeric haddressed (Simulation.seek {} 0.5)
  have hnobody : ∀ text, (Simulation.seek {} 0.5).network.audience text = [] := by
    intro text
    rw [Network.audience]
    split <;> rfl
  have hrank : ¬ (Moment.time 1).rank ≤ (Moment.time 0.5).rank := by decide +kernel
  have hagenda : agenda earlyAndLate = [⟨.time 0.5, "early", 2⟩, ⟨.time 1, "late", 1⟩] := by
    simp [agenda, earlyAndLate, List.mergeSort, List.MergeSort.Internal.splitInTwo, hrank]
  have hevents : ((Simulation.seek {} 0.5).run quarters earlyAndLate).events.filterMap
      Log.Event.unheard? = ["early"] := by
    simp only [run, hoptions, hagenda]
    decide +kernel
  rw [hevents] at hwarned
  simp only [hnobody, decide_true, List.filter_true] at hwarned
  exact ⟨rounds, hrounds, hwarned.symm⟩

end Simulation

end Servo
