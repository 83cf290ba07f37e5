import Servo.Proofs.Decimal.Magnitude
import Servo.Proofs.Simulation.Channels
import Servo.Proofs.Simulation.Timetable

/-!
# Commands at equal times

Two commands of a world may be at the same time.  `World.commandsAt` brings the commands at one
time into the order in which they are published, which is the order of the document, except that
the negative zero comes before the positive one: the two are equal as numbers, but not in the total
order of moments.  A run publishes all commands at a time or none, and it publishes them in this
order (`filter_aired`); so the last of them is the one that counts (`equal_times_in_order`).
-/

namespace Servo

/-! ### Equal numbers -/

/-- Two numbers equal zero. -/
theorem Binary64.beq_zero_iff {x : Float} :
  (x == 0) = true ↔ x = 0 ∨ x = -0
  := by
  have hzero : (0 : Float).isNaN = false ∧ place 0 = 0 := by decide +kernel
  rw [beq_iff, hzero.2]
  constructor
  · rintro ⟨-, -, hplace⟩
    apply eq_zero_of_distance
    rw [place, bitsPlace] at hplace
    split at hplace <;> omega
  · rintro (rfl | rfl) <;> decide +kernel

theorem Binary64.beq_congr {s t : Float} (h : (s == t) = true) (x : Float) :
  (x == s) = true ↔ (x == t) = true
  := by
  obtain ⟨hs, ht, hplace⟩ := beq_iff.1 h
  rw [beq_iff, beq_iff, hs, ht, hplace]

theorem Binary64.beq_self_of_beq {s t : Float} (h : (s == t) = true) :
  (t == t) = true
  := by
  obtain ⟨-, ht, -⟩ := beq_iff.1 h
  exact beq_iff.2 ⟨ht, ht, rfl⟩

/-- Equal numbers that are not zero have the same rank among all moments. -/
theorem Simulation.Moment.rank_eq_of_beq {s t : Float} (h : (s == t) = true)
    (hzero : ¬ (t == 0) = true) :
  (time s).rank = (time t).rank
  := by
  obtain ⟨-, ht, hplace⟩ := Binary64.beq_iff.1 h
  have hnonzero : Binary64.place t ≠ 0 := by
    intro hplace
    apply hzero
    rw [Binary64.beq_iff, hplace]
    exact ⟨ht, by decide +kernel⟩
  rw [Binary64.place_eq_rank t] at hnonzero hplace
  rw [Binary64.place_eq_rank s] at hplace
  grind

/-- The commands at a time in the order in which they are published: that of the document, but those
at the negative zero come first. -/
def World.commandsAt (w : World) (time : Float) : List World.Command :=
  if time == 0 then w.commands.filter (·.time = -0) ++ w.commands.filter (·.time = 0)
  else w.commands.filter (·.time == time)

namespace Simulation

/-- A command is at a time. -/
def Scheduled.isAt (time : Float) (c : Scheduled) : Bool := c.moment.toFloat == time

/-! ### The order of the agenda -/

/-- Commands of one moment keep their order in the agenda. -/
theorem filter_agenda_of_rank {commands : List Scheduled} {p : Scheduled → Bool} {r : Int}
    (h : ∀ c ∈ commands, p c = true → c.moment.rank = r) :
  (agenda commands).filter p = commands.filter p
  := by
  have hsplit : ∀ l : List Scheduled, (∀ c ∈ l, c ∈ commands) →
      l.filter p = (l.filter (·.moment.rank = r)).filter p := by
    intro l hl
    rw [List.filter_filter]
    apply List.filter_congr
    intro c hc
    rw [eq_comm, Bool.and_eq_left_iff_imp, decide_eq_true_iff]
    apply h c (hl c hc)
  rw [hsplit _ fun c => mem_agenda.1, filter_rank_agenda, ← hsplit _ fun c hc => hc]

/-- In the agenda the commands before some moment come before the others. -/
theorem filter_agenda_split (commands : List Scheduled) (p : Scheduled → Bool) (r : Int) :
  (agenda commands).filter p =
    (agenda commands).filter (fun c => p c ∧ c.moment.rank < r)
      ++ (agenda commands).filter (fun c => p c ∧ ¬ c.moment.rank < r)
  := by
  have hsorted : (agenda commands).Pairwise fun a b =>
      decide (b.moment.rank < r) = true → decide (a.moment.rank < r) = true := by
    apply (pairwise_agenda commands).imp
    intro a b hab hb
    apply decide_eq_true (Int.lt_of_le_of_lt hab (of_decide_eq_true hb))
  have hparts := congrArg (List.filter p)
    (List.takeWhile_append_dropWhile (p := fun c => decide (c.moment.rank < r))
      (l := agenda commands))
  rw [takeWhile_eq_filter hsorted, dropWhile_eq_filter hsorted, List.filter_append,
    List.filter_filter, List.filter_filter] at hparts
  rw [← hparts]
  simp only [Bool.decide_and, Bool.decide_eq_true, decide_not]

theorem schedule_append (before after : List World.Command) :
  schedule (before ++ after) = schedule before ++ schedule after
  := List.map_append

/-- What is selected from a schedule is selected from the commands. -/
theorem filter_schedule {commands : List World.Command} {p : Scheduled → Bool}
    {q : World.Command → Bool} (h : ∀ c, p ⟨.time c.time, c.topic, c.value⟩ = q c) :
  (schedule commands).filter p = schedule (commands.filter q)
  := by
  rw [schedule, List.filter_map, schedule]
  congr 1
  apply List.filter_congr
  intro c _
  apply h

/-- The selected commands of a schedule keep their order in the agenda if they have one moment. -/
theorem filter_agenda_schedule_of_rank {commands : List World.Command} {p : Scheduled → Bool}
    {q : World.Command → Bool} {r : Int} (h : ∀ c, p ⟨.time c.time, c.topic, c.value⟩ = q c)
    (hrank : ∀ c, q c = true → (Moment.time c.time).rank = r) :
  (agenda (schedule commands)).filter p = schedule (commands.filter q)
  := by
  rw [filter_agenda_of_rank (r := r), filter_schedule h]
  intro c hc hp
  obtain ⟨x, -, rfl⟩ := List.mem_map.1 hc
  apply hrank x
  rw [← h, hp]

/-- In the agenda the commands at a time are in the order in which they are published. -/
theorem filter_agenda_schedule (w : World) (time : Float) :
  (agenda (schedule w.commands)).filter (·.isAt time) = schedule (w.commandsAt time)
  := by
  have hranks : (Moment.time 0).rank = 0 ∧ (Moment.time (-0)).rank = -1 := by decide +kernel
  have hdistinct : ¬ (0 : Float) = -0 := by decide +kernel
  rw [World.commandsAt]
  by_cases hzero : (time == 0) = true
  · -- The commands at zero have two ranks, one for each sign, so the agenda is split between them.
    have hat : ∀ t : Float, (t == time) = true ↔ t = 0 ∨ t = -0 := by
      intro t
      rw [Binary64.beq_congr hzero, Binary64.beq_zero_iff]
    have hnegative : ∀ t : Float,
        (t == time) = true ∧ (Moment.time t).rank < 0 ↔ t = -0 := by
      intro t
      rw [hat]
      grind
    have hpositive : ∀ t : Float,
        (t == time) = true ∧ ¬ (Moment.time t).rank < 0 ↔ t = 0 := by
      intro t
      rw [hat]
      grind
    rw [if_pos hzero, filter_agenda_split _ _ 0, schedule_append]
    congr 1
    · apply filter_agenda_schedule_of_rank (r := -1)
      · intro c
        apply decide_eq_decide.2 (hnegative c.time)
      · intro c hc
        rw [of_decide_eq_true hc, hranks.2]
    · apply filter_agenda_schedule_of_rank (r := 0)
      · intro c
        apply decide_eq_decide.2 (hpositive c.time)
      · intro c hc
        rw [of_decide_eq_true hc, hranks.1]
  · rw [if_neg hzero]
    apply filter_agenda_schedule_of_rank (r := (Moment.time time).rank) (fun c => rfl)
    intro c hc
    apply Moment.rank_eq_of_beq hc hzero

/-! ### What a run publishes -/

/-- Commands at equal times are due together. -/
theorem isAired_eq_of_isAt {c d : Scheduled} {time : Float} (hc : c.isAt time = true)
    (hd : d.isAt time = true) (start : Nat → Float) (n : Nat) :
  isAired start n c = isAired start n d
  := by
  obtain ⟨hcnumber, htime, hcplace⟩ := Binary64.beq_iff.1 hc
  obtain ⟨hdnumber, -, hdplace⟩ := Binary64.beq_iff.1 hd
  have hdue : ∀ now, isDue now c = isDue now d := by
    intro now
    apply decide_eq_decide.2
    rw [Binary64.le_iff, Binary64.le_iff, hcnumber, hdnumber, hcplace, hdplace]
  simp only [isAired, hdue]

/-- Of the commands at one time all are aired or none, and they are aired in their order. -/
theorem filter_aired (w : World) (start : Nat → Float) (n : Nat) (time : Float) :
  (aired start (schedule w.commands) n).filter (·.isAt time) = []
    ∨ (aired start (schedule w.commands) n).filter (·.isAt time) = schedule (w.commandsAt time)
  := by
  rw [aired, List.filter_comm, ← filter_agenda_schedule]
  by_cases haired : ∃ d ∈ (agenda (schedule w.commands)).filter (·.isAt time),
      isAired start n d = true
  · right
    obtain ⟨d, hd, haired⟩ := haired
    rw [List.filter_eq_self]
    intro c hc
    rw [isAired_eq_of_isAt (List.mem_filter.1 hc).2 (List.mem_filter.1 hd).2, haired]
  · left
    rw [List.filter_eq_nil_iff]
    intro c hc hcaired
    exact haired ⟨c, hc, hcaired⟩

/-- Two commands at equal times are in their order, which is that of the document unless the second
one is at the negative zero and the first one at the positive zero. -/
theorem pair_commandsAt {w : World} {c d : World.Command} (h : [c, d].Sublist w.commands)
    (heq : (c.time == d.time) = true) :
  (if c.time = 0 ∧ d.time = -0 then [d, c] else [c, d]).Sublist (w.commandsAt d.time)
  := by
  have hdistinct : ¬ (0 : Float) = -0 := by decide +kernel
  have hsplit : ∀ p : World.Command → Bool, ([c, d].filter p).Sublist (w.commands.filter p) :=
    fun p => h.filter p
  rw [World.commandsAt]
  by_cases hzero : (d.time == 0) = true
  · have hc := Binary64.beq_zero_iff.1 ((Binary64.beq_congr hzero _).1 heq)
    have hd := Binary64.beq_zero_iff.1 hzero
    have hboth := (hsplit (·.time = -0)).append (hsplit (·.time = 0))
    rw [if_pos hzero]
    rcases hc with hc | hc <;> rcases hd with hd | hd <;>
      simpa [hc, hd, hdistinct, Ne.symm hdistinct] using hboth
  · have hnot : ¬ (c.time = 0 ∧ d.time = -0) := by
      rintro ⟨-, hd⟩
      exact hzero (Binary64.beq_zero_iff.2 (.inr hd))
    rw [if_neg hzero, if_neg hnot]
    simpa [heq, Binary64.beq_self_of_beq heq] using hsplit (·.time == d.time)

/-- Two commands at equal times of which one is aired are aired in their order. -/
theorem pair_aired {w : World} {c d : World.Command} (h : [c, d].Sublist w.commands)
    (heq : (c.time == d.time) = true) {start : Nat → Float} {n : Nat} {x : Scheduled}
    (hx : x ∈ schedule [c, d]) (haired : x ∈ aired start (schedule w.commands) n) :
  (schedule (if c.time = 0 ∧ d.time = -0 then [d, c] else [c, d])).Sublist
    (aired start (schedule w.commands) n)
  := by
  have hat : x.isAt d.time = true := by
    simp only [schedule, List.map_cons, List.map_nil, List.mem_cons, List.not_mem_nil,
      or_false] at hx
    rcases hx with rfl | rfl
    · exact heq
    · exact Binary64.beq_self_of_beq heq
  have hall := (filter_aired w start n d.time).resolve_left
    (List.ne_nil_of_mem (List.mem_filter.2 ⟨haired, hat⟩))
  have hpair := (pair_commandsAt h heq).map fun c : World.Command =>
    (⟨.time c.time, c.topic, c.value⟩ : Scheduled)
  rw [← schedule, ← schedule, ← hall] at hpair
  apply hpair.trans List.filter_sublist

/-! ### The set-point that stays -/

theorem isAt_of_le {c d : Scheduled} (hcd : c.moment.toFloat ≤ d.moment.toFloat)
    (hdc : d.moment.toFloat ≤ c.moment.toFloat) :
  c.isAt d.moment.toFloat = true
  := by
  obtain ⟨hc, hd, hplace⟩ := Binary64.le_iff.1 hcd
  obtain ⟨-, -, hplace'⟩ := Binary64.le_iff.1 hdc
  apply Binary64.beq_iff.2 ⟨hc, hd, Int.le_antisymm hplace hplace'⟩

/-- The last of some commands in the order of their moments is the last one at the latest time. -/
theorem getLast?_filter_isAt {l : List Scheduled}
    (hsorted : l.Pairwise (·.moment.rank ≤ ·.moment.rank)) (hnumeric : Numeric l) {d : Scheduled}
    (hd : d ∈ l) (hlatest : ∀ e ∈ l, e.moment.toFloat ≤ d.moment.toFloat) :
  (l.filter (·.isAt d.moment.toFloat)).getLast? = l.getLast?
  := by
  obtain ⟨before, z, rfl⟩ : ∃ before z, l = before ++ [z] :=
    (List.eq_nil_or_concat' l).resolve_left (List.ne_nil_of_mem hd)
  have hz := hlatest z (by simp)
  have hrank : d.moment.rank ≤ z.moment.rank := by
    rcases List.mem_append.1 hd with hbefore | hlast
    · apply (List.pairwise_append.1 hsorted).2.2 d hbefore z (by simp)
    · rw [List.mem_singleton.1 hlast]
  have hdz : d.moment.toFloat ≤ z.moment.toFloat := by
    obtain ⟨s, hs, hnumber⟩ := hnumeric d hd
    obtain ⟨t, ht, hnumber'⟩ := hnumeric z (by simp)
    rw [hs, ht] at hrank
    rw [hs, ht]
    apply Binary64.le_of_rank_le hrank hnumber (Binary64.le_refl hnumber')
  rw [List.filter_append, List.filter_cons_of_pos (isAt_of_le hz hdz), List.filter_nil,
    List.getLast?_concat, List.getLast?_concat]

/-- An inbox that listens to a text does so before commands were published. -/
theorem listens_of_published {n : Network} {commands : List Scheduled} {i : Inbox} {text : String}
    (h : (published n commands).Listens i text) :
  n.Listens i text
  := by
  obtain ⟨hbus, hsize⟩ := published_frame n commands
  constructor
  case known => exact hsize ▸ h.known
  case subscribed =>
    intro t
    rw [← hbus]
    apply h.subscribed

/-- After the commands that are aired an inbox holds the value of the last command at the latest
time on its topic. -/
theorem read_aired {w : World} (hw : w.Valid) {n : Network} {start : Nat → Float} {k : Nat}
    {i : Inbox} {text : String} {t : Topic} (ht : Topic.ofString text = .ok t)
    (hlistens : (published n (aired start (schedule w.commands) k)).Listens i text)
    {d : Scheduled} (hd : d ∈ aired start (schedule w.commands) k) (htopic : d.topic? = some t)
    (hlatest : ∀ e ∈ aired start (schedule w.commands) k, e.topic? = some t →
      e.moment.toFloat ≤ d.moment.toFloat) :
  some ((published n (aired start (schedule w.commands) k)).inboxes.read i) =
    ((w.commandsAt d.moment.toFloat).filter (Topic.ofString ·.topic = .ok t)).getLast?.map (·.value)
  := by
  have hnumeric : Numeric (aired start (schedule w.commands) k) := by
    intro c hc
    apply numeric_schedule hw c (mem_agenda.1 (List.mem_filter.1 hc).1)
  have hsorted : (aired start (schedule w.commands) k).Pairwise
      (·.moment.rank ≤ ·.moment.rank) := (pairwise_agenda _).filter _
  have hsome : d ∈ (aired start (schedule w.commands) k).filter (·.topic? = some t) :=
    List.mem_filter.2 ⟨hd, decide_eq_true htopic⟩
  have hlast := getLast?_filter_isAt (hsorted.filter _)
    (fun c hc => hnumeric c (List.mem_filter.1 hc).1) hsome
    (fun e he => hlatest e (List.mem_filter.1 he).1 (of_decide_eq_true (List.mem_filter.1 he).2))
  have hat : d ∈ (aired start (schedule w.commands) k).filter (·.isAt d.moment.toFloat) := by
    apply List.mem_filter.2 ⟨hd, isAt_of_le (hlatest d hd htopic) (hlatest d hd htopic)⟩
  rw [List.filter_comm, (filter_aired w start k d.moment.toFloat).resolve_left
    (List.ne_nil_of_mem hat), filter_schedule (q := (Topic.ofString ·.topic = .ok t)) ?topic]
    at hlast
  case topic =>
    intro c
    apply decide_eq_decide.2 topic?_eq_some_iff
  rw [read_published (listens_of_published hlistens), ht]
  dsimp only
  cases hz : ((aired start (schedule w.commands) k).filter (·.topic? = some t)).getLast? with
  | none => exact absurd (List.getLast?_eq_none_iff.1 hz) (List.ne_nil_of_mem hsome)
  | some z =>
    rw [hz, schedule, List.getLast?_map] at hlast
    obtain ⟨x, hx, rfl⟩ := Option.map_eq_some_iff.1 hlast
    rw [hx]
    rfl

/-- In the runs of a valid world the commands at equal times are published together and in the order
of the document, except that a command at the negative zero comes before one at the positive zero;
so the set-point that a controller has in the end is that of the last command, in this order, at the
latest time on its topic. -/
theorem equal_times_in_order {w : World} (hw : w.fault? = none) :
  (Entity.capacity < w.size ∧ ofWorld w = .error (.store .exhausted))
    ∨ ∃ b, ofWorld w = .ok b ∧ ∀ y, b.simulation.Reaches y → ∀ o : Options, o.fault? = none →
      ∃ rounds, Timetable y o b.schedule rounds
        ∧ (y.run o b.schedule).simulation = (Performance.perform o.dt ⟨y, []⟩ rounds).simulation
        ∧ (y.run o b.schedule).events = (Performance.perform o.dt ⟨y, []⟩ rounds).events
        ∧ (∀ time, rounds.flatten.filter (·.isAt time) = []
          ∨ rounds.flatten.filter (·.isAt time) = schedule (w.commandsAt time))
        ∧ (∀ c d : World.Command, [c, d].Sublist w.commands → (c.time == d.time) = true →
          (∃ x ∈ schedule [c, d], x ∈ rounds.flatten) →
          (schedule (if c.time = 0 ∧ d.time = -0 then [d, c] else [c, d])).Sublist rounds.flatten)
        ∧ ∀ (i : Nat) (x : World.Slot) (c : Controller.Config) (t : Topic), w.slots[i]? = some x →
          Controller.Config.ofParams x.plugin.params = .ok c →
          Topic.ofString (c.topicFor x.model.name) = .ok t →
          ∀ d ∈ rounds.flatten, d.topic? = some t →
          (∀ e ∈ rounds.flatten, e.topic? = some t → e.moment.toFloat ≤ d.moment.toFloat) →
          ∃ a, (y.run o b.schedule).simulation.systems[i]? = some (.controller (.enabled a))
            ∧ some ((y.run o b.schedule).simulation.network.inboxes.read a.inbox) =
              ((w.commandsAt d.moment.toFloat).filter
                (Topic.ofString ·.topic = .ok t)).getLast?.map (·.value)
  := by
  have hvalid := World.fault?_eq_none_iff.1 hw
  have hnumeric := numeric_schedule hvalid
  have haddressed := addressed_schedule hvalid
  rcases ofWorld_of_valid hvalid with hfull | ⟨b, hb⟩
  · exact .inl hfull
  right
  refine ⟨b, hb, ?_⟩
  intro y hy o ho
  obtain ⟨sites, cs, hmirrors⟩ := mirrors_of_ofWorld hb
  obtain ⟨n, hn⟩ := o.exists_lasts (y.startTime o.dt)
  have hreached := hy.trans (samples_of_run y o b.schedule).1
  rw [hmirrors.schedule] at hreached ⊢
  have hrun := run_eq ho hnumeric haddressed y hn
  have hnetwork := network_performance hnumeric haddressed y o.dt n
  refine ⟨_, timetable_batches hnumeric haddressed y hn, ?_⟩
  rw [hrun] at hreached ⊢
  rw [flatten_batches hnumeric]
  refine ⟨rfl, rfl, filter_aired w _ n, ?pairs, ?setPoint⟩
  case pairs => exact fun c d hpair heq ⟨x, hx, haired⟩ => pair_aired hpair heq hx haired
  case setPoint =>
    intro i x c t hx hc ht d hd htopic hlatest
    obtain ⟨a, ha, -, hfollows⟩ := Simulation.controller_of_slot hb hreached hx hc
    have hlistens := hfollows.listens
    rw [hnetwork] at hlistens ⊢
    exact ⟨a, ha, read_aired hvalid ht hlistens hd htopic hlatest⟩

/-- A world with two commands on the topic of its only controller. -/
def twice (first second : Float) : World where
  version := 1
  name := "bench"
  models := [drivenModel "cart" "wheel"]
  commands := [⟨first, "/model/cart/joint/wheel/cmd_vel", 1⟩,
    ⟨second, "/model/cart/joint/wheel/cmd_vel", 2⟩]

/-- A run of a single tick. -/
def oneTick : Options where
  dt := 0.5
  maxSteps := 1
  recordEvery := 1

/-- Of two commands at zero the second one counts. -/
theorem equal_times_in_order_twice :
  (twice 0 0).fault? = none ∧ oneTick.fault? = none ∧ ∃ b, ofWorld (twice 0 0) = .ok b
    ∧ ∃ a, (b.simulation.run oneTick b.schedule).simulation.systems[0]?
        = some (.controller (.enabled a))
      ∧ (b.simulation.run oneTick b.schedule).simulation.network.inboxes.read a.inbox = 2
  := by
  have hvalid : (twice 0 0).fault? = none := by decide +kernel
  have hoptions : oneTick.fault? = none := by decide +kernel
  rcases equal_times_in_order hvalid with ⟨hfull, -⟩ | ⟨b, hb, hruns⟩
  · exact absurd hfull (by decide +kernel)
  have hbuilt : (ofWorld (twice 0 0)).toOption.map (fun b => (b.simulation.clock.time, b.schedule))
      = some (0, schedule (twice 0 0).commands) := by
    decide +kernel
  rw [hb] at hbuilt
  obtain ⟨htime, hschedule⟩ := Prod.mk.inj (Option.some.inj hbuilt)
  obtain ⟨rounds, htimetable, -, -, -, -, hsetPoint⟩ := hruns b.simulation .refl oneTick hoptions
  have hstart : b.simulation.roundStart oneTick.dt rounds 0 = 0 := htime
  have hlength : 0 < rounds.length := by
    rcases htimetable.last with hall | hlate
    · rw [hall]
      decide
    · apply Nat.pos_of_ne_zero
      intro hnone
      rw [hnone, hstart] at hlate
      exact hlate (by decide +kernel)
  have hsecond : (⟨.time 0, "/model/cart/joint/wheel/cmd_vel", 2⟩ : Scheduled)
      ∈ rounds.flatten := by
    rw [htimetable.complete, hschedule]
    refine ⟨by decide +kernel, 0, hlength, ?_⟩
    rw [hstart]
    decide +kernel
  have hlatest : ∀ e ∈ rounds.flatten, e.moment.toFloat ≤ (0 : Float) := by
    intro e he
    have hcommand := ((htimetable.complete e).1 he).1
    rw [hschedule] at hcommand
    simp only [twice, schedule, List.map_cons, List.map_nil, List.mem_cons, List.not_mem_nil,
      or_false] at hcommand
    rcases hcommand with rfl | rfl <;> decide +kernel
  obtain ⟨a, ha, hread⟩ := hsetPoint 0 (drivenSlot "cart" "wheel") { joint := "wheel" }
    ⟨"/model/cart/joint/wheel/cmd_vel"⟩ rfl (by decide +kernel) (by decide +kernel) _ hsecond
    (by decide +kernel) (fun e he _ => hlatest e he)
  refine ⟨hvalid, hoptions, b, hb, a, ha, ?_⟩
  apply Option.some.inj
  apply hread.trans
  decide +kernel

/-- Of a command at the positive zero and one at the negative zero that follows it in the document
the second one is published first, and the first one counts. -/
theorem negative_zero_goes_first :
  (twice 0 (-0)).fault? = none ∧ ((0 : Float) == -0) = true ∧ oneTick.fault? = none
    ∧ ∃ b rounds, ofWorld (twice 0 (-0)) = .ok b
      ∧ b.schedule = schedule (twice 0 (-0)).commands
      ∧ Timetable b.simulation oneTick b.schedule rounds
      ∧ rounds.flatten.map (·.value) = [2, 1]
      ∧ (b.simulation.run oneTick b.schedule).simulation.setPoints = [some 1, none]
  := by
  have hvalid : (twice 0 (-0)).fault? = none := by decide +kernel
  have hoptions : oneTick.fault? = none := by decide +kernel
  have hnumeric := numeric_schedule (World.fault?_eq_none_iff.1 hvalid)
  have haddressed := addressed_schedule (World.fault?_eq_none_iff.1 hvalid)
  have hrank : ¬ (Moment.time 0).rank ≤ (Moment.time (-0)).rank := by decide +kernel
  have hagenda : agenda (schedule (twice 0 (-0)).commands)
      = [⟨.time (-0), "/model/cart/joint/wheel/cmd_vel", 2⟩,
        ⟨.time 0, "/model/cart/joint/wheel/cmd_vel", 1⟩] := by
    simp [agenda, schedule, twice, List.mergeSort, List.MergeSort.Internal.splitInTwo, hrank]
  have hruns : ((ofWorld (twice 0 (-0))).toOption.map fun b => (b.simulation.clock.time, b.schedule,
      (b.simulation.run oneTick (schedule (twice 0 (-0)).commands)).simulation.setPoints))
      = some (0, schedule (twice 0 (-0)).commands, [some 1, none]) := by
    simp only [run, hoptions, hagenda]
    decide +kernel
  obtain ⟨b, hb, hruns⟩ := Option.map_eq_some_iff.1 hruns
  obtain ⟨htime, hruns⟩ := Prod.mk.inj hruns
  obtain ⟨hschedule, hpoints⟩ := Prod.mk.inj hruns
  have hstart : b.simulation.startTime oneTick.dt 0 = 0 := htime
  have hlasts : oneTick.Lasts (b.simulation.startTime oneTick.dt) 1 := by
    constructor
    case allowed => decide
    case early =>
      intro k hk
      rw [Nat.lt_one_iff.1 hk, hstart]
      decide +kernel
    case last => exact .inl rfl
  have htimetable := timetable_batches hnumeric haddressed b.simulation hlasts
  rw [← hschedule] at hpoints
  refine ⟨hvalid, by decide +kernel, hoptions, b, _, eq_ok_of_toOption hb, hschedule,
    by rw [hschedule]; exact htimetable, ?_, hpoints⟩
  have hdue : isAired (b.simulation.startTime oneTick.dt) 1 = isDue 0 := by
    funext c
    rw [isAired, List.range_one, List.any_cons, hstart, List.any_nil, Bool.or_false]
  rw [flatten_batches hnumeric, aired, hagenda, hdue]
  decide +kernel

end Simulation

end Servo
