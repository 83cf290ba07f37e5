import Servo.Proofs.Simulation.Publication
import Servo.Proofs.Simulation.Trace

/-!
# The rounds of a run

A run goes in rounds: in each of them some commands are published, and then there is a tick.
What the rounds are can be told beforehand.  The ticks start at the times that the clock gives
(`Simulation.startTime`), and the commands of a round are those that are due at the start of its
tick and were not due earlier (`batch`).  `run_eq` says that a run performs these rounds and
records the joints after some of them.
-/

namespace Servo

/-- The clock after some ticks of the length `dt`. -/
def Clock.after {K : Type} [OfNat K 0] [Add K] [Sub K] (c : Clock K) (dt : K) : Nat → Clock K
  | 0 => c
  | k + 1 => ((c.after dt k).step dt).2

namespace Simulation

/-- The time at which the tick number `k` starts, counted from zero. -/
def startTime (sim : Simulation) (dt : Float) (k : Nat) : Float := (sim.clock.after dt k).time

/-! ### Performances -/

/-- A simulation with the events that were noted so far. -/
structure Performance where
  simulation : Simulation
  events : List Log.Event := []

namespace Performance

/-- The publication of a command.  It is noted if the command reaches nobody. -/
def publish (x : Performance) (c : Scheduled) : Performance :=
  match x.simulation.publish c.topic c.value with
  | .error _ => x
  | .ok (reached, sim, events) =>
    ⟨sim, x.events ++ events ++ if reached = 0 then [.unheard c.topic] else []⟩

/-- A tick for which the length `dt` is proposed. -/
def tick (dt : Float) (x : Performance) : Performance :=
  let (_, sim, events) := x.simulation.step dt
  ⟨sim, x.events ++ events⟩

/-- A round, in which commands are published before a tick. -/
def round (dt : Float) (x : Performance) (commands : List Scheduled) : Performance :=
  (commands.foldl publish x).tick dt

/-- Some rounds one after the other. -/
def perform (dt : Float) (x : Performance) (rounds : List (List Scheduled)) : Performance :=
  rounds.foldl (round dt) x

/-- A command on a valid topic is published. -/
theorem publish_of_ok {c : Scheduled} {t : Topic} (h : Topic.ofString c.topic = .ok t)
    (x : Performance) :
  ∃ p, x.simulation.network.publish c.topic c.value = .ok p
    ∧ x.publish c = ⟨{ x.simulation with network := p.network },
      x.events ++ p.events ++ if p.reached = 0 then [.unheard c.topic] else []⟩
    ∧ p.network = afterCommand x.simulation.network c
  := by
  obtain ⟨p, hp, hnetwork⟩ := Network.publish_of_ok h x.simulation.network c.value
  refine ⟨p, hp, ?_, ?_⟩
  · simp only [publish, Simulation.publish, hp]
    rfl
  · rw [hnetwork, afterCommand, topic?_eq_some_iff.2 h]

/-- Publishing commands changes the network only. -/
theorem simulation_foldl_publish {commands : List Scheduled} (h : Addressed commands)
    (x : Performance) :
  (commands.foldl publish x).simulation
    = { x.simulation with network := published x.simulation.network commands }
  := by
  induction commands generalizing x with
  | nil => rfl
  | cons c rest ih =>
    obtain ⟨hc, hrest⟩ := List.forall_mem_cons.1 h
    obtain ⟨t, ht⟩ := hc
    obtain ⟨p, -, hpublish, hnetwork⟩ := publish_of_ok ht x
    rw [List.foldl_cons, ih hrest, hpublish, hnetwork, published, published, List.foldl_cons]

/-- What is due among some commands is published. -/
theorem foldl_publish_due {pending : List Scheduled} (h : Addressed pending) (now : Float)
    (x : Performance) :
  let due := publishDue now x.simulation.network pending
  (pending.takeWhile (isDue now)).foldl publish x
    = ⟨{ x.simulation with network := due.network }, x.events ++ due.events⟩
  := by
  induction pending generalizing x with
  | nil =>
    intro due
    have hevents : x.events ++ due.events = x.events := List.append_nil _
    rw [hevents]
    rfl
  | cons c rest ih =>
    obtain ⟨hc, hrest⟩ := List.forall_mem_cons.1 h
    obtain ⟨t, ht⟩ := hc
    obtain ⟨p, hp, hpublish, -⟩ := publish_of_ok ht x
    simp only [publishDue]
    cases hcome : c.moment.hasCome now with
    | false =>
      have hlate : ¬ isDue now c = true := by rw [isDue, hcome]; exact Bool.false_ne_true
      rw [List.takeWhile_cons_of_neg hlate]
      simp
    | true =>
      have hdue : isDue now c = true := hcome
      rw [List.takeWhile_cons_of_pos hdue, List.foldl_cons, ih hrest, hpublish, if_pos rfl, hp]
      simp only [List.append_assoc]

end Performance

/-! ### The commands of the rounds -/

section

variable (start : Nat → Float) (commands : List Scheduled)

/-- Whether a command is due at the start of one of the first `k` ticks. -/
def isAired (k : Nat) (c : Scheduled) : Bool := (List.range k).any fun i => isDue (start i) c

/-- The commands that are due at the start of one of the first `k` ticks, in the order of the
agenda. -/
def aired (k : Nat) : List Scheduled := (agenda commands).filter (isAired start k)

/-- The commands that are due at none of the first `k` ticks, in the order of the agenda. -/
def left (k : Nat) : List Scheduled := (agenda commands).filter (!isAired start k ·)

/-- The commands that are due at the start of the tick number `k` and at no earlier one, in the
order of the agenda. -/
def batch (k : Nat) : List Scheduled :=
  (agenda commands).filter fun c => isDue (start k) c && !isAired start k c

end

variable {start : Nat → Float} {commands : List Scheduled}

theorem isAired_iff {k : Nat} {c : Scheduled} :
  isAired start k c = true ↔ ∃ i < k, isDue (start i) c = true
  := by
  rw [isAired, List.any_eq_true]
  simp only [List.mem_range]

theorem isAired_succ (k : Nat) (c : Scheduled) :
  isAired start (k + 1) c = (isAired start k c || isDue (start k) c)
  := by
  rw [isAired, List.range_succ, List.any_append, ← isAired, List.any_cons, List.any_nil,
    Bool.or_false]

/-- The commands that are aired are those before the others in the agenda. -/
theorem pairwise_isAired_agenda (h : Numeric commands) (start : Nat → Float) (k : Nat) :
  (agenda commands).Pairwise fun a b => isAired start k b = true → isAired start k a = true
  := by
  have hdue : ∀ i, (agenda commands).Pairwise
      fun a b => isDue (start i) b = true → isDue (start i) a = true :=
    fun i => pairwise_isDue_agenda h (start i)
  rw [List.pairwise_iff_forall_sublist]
  intro a b hab hb
  obtain ⟨i, hi, hbi⟩ := isAired_iff.1 hb
  exact isAired_iff.2 ⟨i, hi, List.pairwise_iff_forall_sublist.1 (hdue i) hab hbi⟩

/-- The batches are aired one after the other. -/
theorem aired_succ (h : Numeric commands) (k : Nat) :
  aired start commands (k + 1) = aired start commands k ++ batch start commands k
  := by
  have hsorted := pairwise_isAired_agenda h start k
  have hsplit : agenda commands = aired start commands k ++ left start commands k := by
    rw [aired, left, ← takeWhile_eq_filter hsorted, ← dropWhile_eq_filter hsorted,
      List.takeWhile_append_dropWhile]
  rw [aired, hsplit, List.filter_append]
  congr 1
  · rw [List.filter_eq_self]
    intro c hc
    rw [isAired_succ, (List.mem_filter.1 hc).2, Bool.true_or]
  · rw [left, batch, List.filter_filter]
    apply List.filter_congr
    intro c _
    rw [isAired_succ]
    cases isAired start k c <;> simp

/-- The commands of a batch are the ones that are due among those that are left. -/
theorem takeWhile_left (h : Numeric commands) (k : Nat) :
  (left start commands k).takeWhile (isDue (start k)) = batch start commands k
    ∧ (left start commands k).dropWhile (isDue (start k)) = left start commands (k + 1)
  := by
  have hsorted : (left start commands k).Pairwise
      fun a b => isDue (start k) b = true → isDue (start k) a = true :=
    (pairwise_isDue_agenda h (start k)).filter _
  rw [takeWhile_eq_filter hsorted, dropWhile_eq_filter hsorted, left, List.filter_filter,
    List.filter_filter, left]
  refine ⟨rfl, ?_⟩
  apply List.filter_congr
  intro c _
  rw [isAired_succ, Bool.not_or, Bool.and_comm]

theorem Addressed.parts (h : Addressed commands) (start : Nat → Float) (k : Nat) :
  Addressed (batch start commands k) ∧ Addressed (left start commands k)
  := by
  have hfilter : ∀ p : Scheduled → Bool, Addressed ((agenda commands).filter p) := by
    intro p c hc
    apply h c (mem_agenda.1 (List.mem_filter.1 hc).1)
  exact ⟨hfilter _, hfilter _⟩

/-! ### Performing the rounds -/

/-- The performance of the first `k` rounds of a run. -/
def performance (sim : Simulation) (dt : Float) (commands : List Scheduled) (k : Nat) :
    Performance :=
  Performance.perform dt ⟨sim, []⟩ ((List.range k).map (batch (sim.startTime dt) commands))

/-- One more round is performed. -/
theorem performance_succ (sim : Simulation) (dt : Float) (commands : List Scheduled) (k : Nat) :
  sim.performance dt commands (k + 1)
    = (sim.performance dt commands k).round dt (batch (sim.startTime dt) commands k)
  := by
  rw [performance, List.range_succ, List.map_append, Performance.perform, List.foldl_append]
  rfl

/-- A round is the publication of its commands and a tick. -/
theorem simulation_performance_succ (h : Addressed commands) (sim : Simulation) (dt : Float)
    (k : Nat) :
  let before := (sim.performance dt commands k).simulation
  let batch := batch (sim.startTime dt) commands k
  (sim.performance dt commands (k + 1)).simulation
    = (Simulation.step { before with network := published before.network batch } dt).2.1
  := by
  have hpublish := Performance.simulation_foldl_publish (h.parts (sim.startTime dt) k).1
    (sim.performance dt commands k)
  rw [performance_succ]
  exact congrArg (fun s => (Simulation.step s dt).2.1) hpublish

/-- The clock of a performance is the one that makes the ticks. -/
theorem clock_performance (h : Addressed commands) (sim : Simulation) (dt : Float) (k : Nat) :
  (sim.performance dt commands k).simulation.clock = sim.clock.after dt k
  := by
  induction k with
  | zero => rfl
  | succ k ih =>
    rw [simulation_performance_succ h, Clock.after, ← ih]
    rfl

/-- The network of a performance is the one on which all that was aired is published. -/
theorem network_performance (hnumeric : Numeric commands) (haddressed : Addressed commands)
    (sim : Simulation) (dt : Float) (k : Nat) :
  (sim.performance dt commands k).simulation.network
    = published sim.network (aired (sim.startTime dt) commands k)
  := by
  induction k with
  | zero =>
    have hnone : aired (sim.startTime dt) commands 0 = [] := by
      rw [aired, List.filter_eq_nil_iff]
      nofun
    rw [hnone]
    rfl
  | succ k ih =>
    rw [simulation_performance_succ haddressed, aired_succ hnumeric, published_append, ← ih]
    rfl

/-! ### The run -/

/-- A run makes `n` ticks: all of them start before the end time, and it is the greatest such
number that is allowed. -/
structure Options.Lasts (o : Options) (start : Nat → Float) (n : Nat) : Prop where
  allowed : n ≤ o.maxSteps
  early : ∀ k < n, start k < o.endTime
  last : n = o.maxSteps ∨ ¬ start n < o.endTime

/-- Every run makes some number of ticks. -/
theorem Options.exists_lasts (o : Options) (start : Nat → Float) :
  ∃ n, o.Lasts start n
  := by
  have hfirst : ∀ m, ∃ n ≤ m, (∀ k < n, start k < o.endTime)
      ∧ (n = m ∨ ¬ start n < o.endTime) := by
    intro m
    induction m with
    | zero => exact ⟨0, Nat.le_refl _, nofun, .inl rfl⟩
    | succ m ih =>
      obtain ⟨n, hle, hearly, rfl | hlate⟩ := ih
      · by_cases hlast : start n < o.endTime
        · refine ⟨n + 1, Nat.le_refl _, ?_, .inl rfl⟩
          intro k hk
          rcases Nat.lt_succ_iff_lt_or_eq.1 hk with hk | rfl
          · apply hearly k hk
          · apply hlast
        · exact ⟨n, Nat.le_succ n, hearly, .inr hlast⟩
      · exact ⟨n, Nat.le_succ_of_le hle, hearly, .inr hlate⟩
  obtain ⟨n, hle, hearly, hlast⟩ := hfirst o.maxSteps
  exact ⟨n, hle, hearly, hlast⟩

/-- A run makes one number of ticks only. -/
theorem Options.Lasts.eq {o : Options} {start : Nat → Float} {m n : Nat}
    (hm : o.Lasts start m) (hn : o.Lasts start n) :
  m = n
  := by
  have hle : ∀ {m n}, o.Lasts start m → o.Lasts start n → m ≤ n := by
    intro m n hm hn
    apply Nat.le_of_not_lt
    intro hlt
    rcases hn.last with hall | hlate
    · apply Nat.not_le_of_lt hlt (hall ▸ hm.allowed)
    · apply hlate (hm.early n hlt)
  apply Nat.le_antisymm (hle hm hn) (hle hn hm)

/-- The ticks after which a run of `n` ticks records the joints: every few ticks, and at the
end. -/
def recorded (every n : Nat) : List Nat :=
  (List.range (n + 1)).filter fun k => k % every = 0 ∨ k = n

/-- No state is recorded after the last one. -/
theorem le_of_mem_recorded (every n : Nat) :
  ∀ k ∈ recorded every n, k ≤ n
  := by
  intro k hk
  apply Nat.le_of_lt_succ (List.mem_range.1 (List.mem_filter.1 hk).1)

/-- The samples of a performance after some of its ticks. -/
def samplesAt (sim : Simulation) (dt : Float) (commands : List Scheduled) (ticks : List Nat) :
    List Sample :=
  ticks.flatMap fun k => (sim.performance dt commands k).simulation.snapshot

/-- The progress of a run after `k` ticks, before the end is recorded. -/
def progressAt (sim : Simulation) (o : Options) (commands : List Scheduled) (k : Nat) :
    Progress where
  simulation := (sim.performance o.dt commands k).simulation
  pending := left (sim.startTime o.dt) commands k
  steps := k
  samples := (sim.samplesAt o.dt commands
    ((List.range (k + 1)).filter (· % o.recordEvery = 0))).toArray
  events := (sim.performance o.dt commands k).events.toArray

/-- In a round what is due among the commands that are left is published. -/
theorem performance_succ_of_due (hnumeric : Numeric commands) (haddressed : Addressed commands)
    (sim : Simulation) (dt : Float) (k : Nat) :
  let x := sim.performance dt commands k
  let due := publishDue (sim.startTime dt k) x.simulation.network
    (left (sim.startTime dt) commands k)
  sim.performance dt commands (k + 1)
    = Performance.tick dt
      ⟨{ x.simulation with network := due.network }, x.events ++ due.events⟩
  := by
  intro x due
  have hdue := Performance.foldl_publish_due (haddressed.parts (sim.startTime dt) k).2
    (sim.startTime dt k) x
  rw [performance_succ, ← (takeWhile_left hnumeric k).1]
  apply congrArg (Performance.tick dt) hdue

/-- One more tick is recorded if its number is a multiple of those between two recordings. -/
theorem filter_mod_succ (every k : Nat) :
  (List.range (k + 1)).filter (· % every = 0)
    = (List.range k).filter (· % every = 0) ++ if k % every = 0 then [k] else []
  := by
  rw [List.range_succ, List.filter_append]
  congr 1
  split
  next h => rw [List.filter_cons_of_pos (by simp [h]), List.filter_nil]
  next h => rw [List.filter_cons_of_neg (by simp [h]), List.filter_nil]

/-- One more tick of a run adds a recording if its number is a multiple of those between two
recordings. -/
theorem samplesAt_succ (sim : Simulation) (dt : Float) (commands : List Scheduled)
    (every k : Nat) :
  sim.samplesAt dt commands ((List.range (k + 1 + 1)).filter (· % every = 0))
    = sim.samplesAt dt commands ((List.range (k + 1)).filter (· % every = 0))
      ++ if (k + 1) % every = 0 then (sim.performance dt commands (k + 1)).simulation.snapshot
        else []
  := by
  rw [filter_mod_succ every (k + 1), samplesAt, samplesAt, List.flatMap_append]
  congr 1
  split
  next => rw [List.flatMap_singleton]
  next => rw [List.flatMap_nil]

theorem Progress.record_ite (c : Prop) [Decidable c] (p : Progress) :
  (if c then p.record else p)
    = { p with samples := p.samples ++ if c then p.simulation.snapshot else [] }
  := by
  split
  · rfl
  · rw [Array.appendList_nil]

/-- One step of a run performs the next round. -/
theorem advance_progressAt (hnumeric : Numeric commands) (haddressed : Addressed commands)
    (sim : Simulation) (o : Options) (k : Nat) :
  (sim.progressAt o commands k).advance o = (sim.progressAt o commands (k + 1), none)
  := by
  have htime : (sim.performance o.dt commands k).simulation.clock.time = sim.startTime o.dt k :=
    congrArg (·.time) (clock_performance haddressed sim o.dt k)
  have hnext := performance_succ_of_due hnumeric haddressed sim o.dt k
  obtain ⟨-, hpending, hfault⟩ := publishDue_eq
    (haddressed.parts (sim.startTime o.dt) k).2 (sim.startTime o.dt k)
    (sim.performance o.dt commands k).simulation.network
  rw [(takeWhile_left hnumeric k).2] at hpending
  simp only [Progress.advance, progressAt, htime, hfault, hpending, Progress.record_ite,
    samplesAt_succ, hnext, Performance.tick, List.toArray_appendList]

/-- A run goes on as long as the next tick starts before the end time. -/
theorem goesOn_progressAt (haddressed : Addressed commands) (sim : Simulation) (o : Options)
    (k : Nat) :
  (sim.progressAt o commands k).goesOn o = true ↔ sim.startTime o.dt k < o.endTime
  := by
  have htime : (sim.progressAt o commands k).simulation.clock.time = sim.startTime o.dt k :=
    congrArg (·.time) (clock_performance haddressed sim o.dt k)
  rw [Progress.goesOn, htime, decide_eq_true_iff]

/-- A run that has made `k` of its `n` ticks makes the others. -/
theorem loop_progressAt (hnumeric : Numeric commands) (haddressed : Addressed commands)
    (sim : Simulation) {o : Options} {n : Nat} (hn : o.Lasts (sim.startTime o.dt) n)
    (fuel k : Nat) (hk : k ≤ n) (hfuel : k + fuel = o.maxSteps) :
  (sim.progressAt o commands k).loop o fuel = (sim.progressAt o commands n, none)
  := by
  induction fuel generalizing k with
  | zero =>
    obtain rfl : k = n := Nat.le_antisymm hk (Nat.le_trans hn.allowed (Nat.le_of_eq hfuel.symm))
    rfl
  | succ fuel ih =>
    rw [Progress.loop]
    rcases Nat.lt_or_eq_of_le hk with hlt | rfl
    · rw [if_pos ((goesOn_progressAt haddressed sim o k).2 (hn.early k hlt)),
        advance_progressAt hnumeric haddressed sim o k]
      apply ih (k + 1) hlt (by omega)
    · have hlate : ¬ sim.startTime o.dt k < o.endTime :=
        hn.last.resolve_left (by omega)
      rw [if_neg (mt (goesOn_progressAt haddressed sim o k).1 hlate)]

/-- The end is recorded unless it was recorded anyway. -/
theorem recorded_eq (every n : Nat) :
  recorded every n
    = (List.range (n + 1)).filter (· % every = 0) ++ if n % every = 0 then [] else [n]
  := by
  have hearlier : (List.range n).filter (fun k => k % every = 0 ∨ k = n)
      = (List.range n).filter (· % every = 0) := by
    apply List.filter_congr
    intro k hk
    have hne : k ≠ n := Nat.ne_of_lt (List.mem_range.1 hk)
    simp only [hne, or_false]
  rw [recorded, List.range_succ, List.filter_append, List.filter_append, hearlier,
    List.append_assoc]
  congr 1
  by_cases h : n % every = 0 <;> simp [h]

/-- If every tick is recorded, then no state is left out. -/
theorem recorded_one (n : Nat) :
  recorded 1 n = List.range (n + 1)
  := by
  rw [recorded, List.filter_eq_self]
  intro k _
  simp [Nat.mod_one]

/-- At the start the joints are recorded, and all commands are left. -/
theorem begun_eq (sim : Simulation) (o : Options) (commands : List Scheduled) :
  begun sim commands = sim.progressAt o commands 0
  := by
  have hleft : left (sim.startTime o.dt) commands 0 = agenda commands := by
    rw [left, List.filter_eq_self]
    intro c _
    rfl
  have hzero : (List.range (0 + 1)).filter (· % o.recordEvery = 0) = [0] := by
    simp
  rw [progressAt, hleft, hzero, begun, Progress.record, samplesAt, List.flatMap_singleton]
  simp [performance, Performance.perform]

/-- A run performs its rounds and records the joints after some of them. -/
theorem run_eq {o : Options} (ho : o.fault? = none) (hnumeric : Numeric commands)
    (haddressed : Addressed commands) (sim : Simulation) {n : Nat}
    (hn : o.Lasts (sim.startTime o.dt) n) :
  sim.run o commands = ⟨(sim.performance o.dt commands n).simulation,
    (sim.performance o.dt commands n).events,
    .ok (sim.samplesAt o.dt commands (recorded o.recordEvery n))⟩
  := by
  have hloop := loop_progressAt hnumeric haddressed sim hn o.maxSteps 0 (Nat.zero_le n)
    (Nat.zero_add _)
  rw [← begun_eq, begun] at hloop
  rw [run, ho]
  simp only [hloop]
  rw [recorded_eq, samplesAt, List.flatMap_append]
  have hsteps : (sim.progressAt o commands n).steps = n := rfl
  rw [hsteps]
  by_cases h : n % o.recordEvery = 0
  · simp only [if_pos h, List.flatMap_nil, List.append_nil]
    rfl
  · simp only [if_neg h, Progress.record, progressAt, List.flatMap_singleton,
      List.toArray_appendList]
    rfl

/-- A run goes through the performances of its rounds. -/
theorem after?_eq (hnumeric : Numeric commands) (haddressed : Addressed commands)
    (sim : Simulation) {o : Options} {n : Nat} (hn : o.Lasts (sim.startTime o.dt) n) {k : Nat}
    (hk : k ≤ n) :
  (begun sim commands).after? o k = some (sim.progressAt o commands k)
  := by
  induction k with
  | zero => rw [← begun_eq, Progress.after?]
  | succ k ih =>
    rw [Progress.after?, ih (Nat.le_of_lt hk), Option.bind_some]
    apply Progress.next?_eq_some_iff.2
    refine ⟨Nat.lt_of_lt_of_le hk hn.allowed, ?_,
      advance_progressAt hnumeric haddressed sim o k⟩
    rw [goesOn_progressAt haddressed]
    apply hn.early k hk

/-- After its last tick a run makes no other one. -/
theorem next?_eq_none (haddressed : Addressed commands) (sim : Simulation) {o : Options} {n : Nat}
    (hn : o.Lasts (sim.startTime o.dt) n) :
  (sim.progressAt o commands n).next? o = none
  := by
  rw [Progress.next?, if_neg]
  rintro ⟨hsteps, hgoes⟩
  rcases hn.last with hall | hlate
  · exact absurd hall (Nat.ne_of_lt hsteps)
  · exact hlate ((goesOn_progressAt haddressed sim o n).1 hgoes)

/-- The ticks of a run are those that are counted by its states. -/
theorem stateAfter?_eq (hnumeric : Numeric commands) (haddressed : Addressed commands)
    (sim : Simulation) {o : Options} {n : Nat} (hn : o.Lasts (sim.startTime o.dt) n) :
  sim.stateAfter? o commands (n + 1) = none
    ∧ ∀ k ≤ n, sim.stateAfter? o commands k
      = some (sim.performance o.dt commands k).simulation
  := by
  have hafter := fun k hk => after?_eq hnumeric haddressed sim hn (k := k) hk
  constructor
  · rw [stateAfter?, Progress.after?, hafter n (Nat.le_refl n), Option.bind_some,
      next?_eq_none haddressed sim hn, Option.map_none]
  · intro k hk
    rw [stateAfter?, hafter k hk]
    rfl

end Simulation

end Servo
