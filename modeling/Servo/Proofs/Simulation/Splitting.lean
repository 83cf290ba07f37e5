import Servo.Proofs.Simulation.Capacity
import Servo.Proofs.Simulation.JointCourse

/-!
# Splitting a run

A run may be interrupted and gone on with: `run_split` says that two runs one after the other, of
which the second one ends later, come to the same simulation as one run.  The second run publishes
again what the first one has published, which changes nothing (`published_published`).
-/

namespace Servo

theorem Binary64.lt_of_lt_of_le {x y z : Float} (hxy : x < y) (hyz : y ≤ z) :
  x < z
  := by
  obtain ⟨hx, -, hlt⟩ := lt_iff.1 hxy
  obtain ⟨-, hz, hle⟩ := le_iff.1 hyz
  exact lt_iff.2 ⟨hx, hz, Int.lt_of_lt_of_le hlt hle⟩

/-- A clock may be stopped and gone on with. -/
theorem Clock.after_after {K : Type} [OfNat K 0] [Add K] [Sub K] (c : Clock K) (dt : K)
    (m k : Nat) :
  (c.after dt m).after dt k = c.after dt (m + k)
  := by
  induction k with
  | zero => rfl
  | succ k ih => rw [after, ih, ← Nat.add_assoc, after]

namespace Simulation

variable {commands : List Scheduled}

/-! ### Times in order -/

/-- The ticks of a positive length start in order. -/
theorem tickTime_mono {dt : Float} (hfinite : dt.isFinite = true) (hpos : 0 < dt) {i j : Nat}
    (h : i ≤ j) :
  tickTime dt i ≤ tickTime dt j
  := by
  induction j, h using Nat.le_induction with
  | base =>
    have hnumber := isNaN_tickTime hfinite hpos i
    exact Binary64.le_iff.2 ⟨hnumber, hnumber, Int.le_refl _⟩
  | succ j _ ih => apply Binary64.le_trans ih (tickTime_le_succ hfinite hpos j)

/-- If the ticks start in order, then what is due at the start of one of them is aired. -/
theorem isAired_succ_of_mono {start : Nat → Float} {k : Nat}
    (h : ∀ i ≤ k, start i ≤ start k) (c : Scheduled) :
  isAired start (k + 1) c = isDue (start k) c
  := by
  rw [Bool.eq_iff_iff, isAired_iff]
  constructor
  · rintro ⟨i, hi, hdue⟩
    apply isDue_mono (h i (Nat.le_of_lt_succ hi)) hdue
  · intro hdue
    exact ⟨k, Nat.lt_succ_self k, hdue⟩

/-! ### Replayed commands -/

/-- What is aired first is a part of what is aired in the end. -/
theorem aired_isPrefix (h : Numeric commands) (start : Nat → Float) (m k : Nat) :
  aired start commands m <+: aired start commands (m + k)
  := by
  induction k with
  | zero => apply List.prefix_refl
  | succ k ih =>
    rw [← Nat.add_assoc, aired_succ h]
    apply ih.trans (List.prefix_append _ _)

/-- Publishing some commands before all of them changes nothing. -/
theorem published_of_isPrefix {before all : List Scheduled} (h : before <+: all) (n : Network) :
  published (published n before) all = published n all
  := by
  obtain ⟨rest, rfl⟩ := h
  rw [published_append, published_append, published_published]

/-- After a round all that was aired is published. -/
theorem simulation_performance_succ_of_aired (hnumeric : Numeric commands)
    (haddressed : Addressed commands) (sim : Simulation) (dt : Float) (k : Nat) :
  (sim.performance dt commands (k + 1)).simulation
    = (Simulation.step { (sim.performance dt commands k).simulation with
        network := published sim.network (aired (sim.startTime dt) commands (k + 1)) } dt).2.1
  := by
  rw [simulation_performance_succ haddressed, network_performance hnumeric haddressed,
    aired_succ hnumeric, published_append]

/-- The ticks of a second run start where those of the first one ended. -/
theorem startTime_performance (haddressed : Addressed commands) (sim : Simulation) (dt : Float)
    (m k : Nat) :
  (sim.performance dt commands m).simulation.startTime dt k = sim.startTime dt (m + k)
  := by
  rw [startTime, clock_performance haddressed, Clock.after_after, startTime]

/-- The rounds of a second run go on where those of the first one ended. -/
theorem performance_performance (hnumeric : Numeric commands) (haddressed : Addressed commands)
    {sim : Simulation} {dt : Float}
    (hmono : ∀ {i j}, i ≤ j → sim.startTime dt i ≤ sim.startTime dt j) (m k : Nat) :
  ((sim.performance dt commands m).simulation.performance dt commands k).simulation
    = (sim.performance dt commands (m + k)).simulation
  := by
  have hstart := startTime_performance haddressed sim dt m
  have haired : ∀ k, aired ((sim.performance dt commands m).simulation.startTime dt) commands
      (k + 1) = aired (sim.startTime dt) commands (m + k + 1) := by
    intro k
    rw [aired, aired]
    congr 1
    funext c
    rw [isAired_succ_of_mono, isAired_succ_of_mono, hstart]
    · intro i hi
      apply hmono hi
    · intro i hi
      rw [hstart, hstart]
      apply hmono (Nat.add_le_add_left hi m)
  induction k with
  | zero => rfl
  | succ k ih =>
    rw [simulation_performance_succ_of_aired hnumeric haddressed, ih, haired,
      network_performance hnumeric haddressed, Nat.add_assoc,
      published_of_isPrefix (aired_isPrefix hnumeric _ m (k + 1)), ← Nat.add_assoc,
      simulation_performance_succ_of_aired hnumeric haddressed]

/-! ### Two runs -/

/-- The ticks of two runs are as many as those of one. -/
theorem Options.Lasts.add {dt t₁ t₂ : Float} {m₁ m₂ r₁ r₂ : Nat} {start : Nat → Float}
    {n k : Nat} (hle : t₁ ≤ t₂) (hfirst : Options.Lasts ⟨dt, t₁, m₁, r₁⟩ start n)
    (hsecond : Options.Lasts ⟨dt, t₂, m₂, r₂⟩ (fun i => start (n + i)) k) (r : Nat) :
  Options.Lasts ⟨dt, t₂, n + m₂, r⟩ start (n + k)
  := by
  constructor
  case allowed => apply Nat.add_le_add_left hsecond.allowed
  case early =>
    intro i hi
    rcases Nat.lt_or_ge i n with hlt | hge
    · apply Binary64.lt_of_lt_of_le (hfirst.early i hlt) hle
    · obtain ⟨j, rfl⟩ := Nat.exists_eq_add_of_le hge
      apply hsecond.early j (Nat.lt_of_add_lt_add_left hi)
  case last =>
    rcases hsecond.last with hall | hlate
    · exact .inl (congrArg (n + ·) hall)
    · exact .inr hlate

/-- If every tick is recorded, then the recordings of a run with some more ticks are those without
them and those of the other ticks. -/
theorem samplesAt_recorded_one (sim : Simulation) (dt : Float) (commands : List Scheduled)
    (n k : Nat) :
  sim.samplesAt dt commands (recorded 1 (n + k))
    = sim.samplesAt dt commands (recorded 1 n)
      ++ (List.range k).flatMap fun i =>
        (sim.performance dt commands (n + (i + 1))).simulation.snapshot
  := by
  have hsum : n + k + 1 = n + 1 + k := by omega
  rw [recorded_one, recorded_one, hsum, List.range_add, samplesAt, List.flatMap_append, samplesAt,
    List.flatMap_map]
  simp only [Nat.add_assoc, Nat.add_comm 1]

/-- A run may be interrupted: a second run with the same commands, which ends later, comes to the
same simulation as one run with the ticks of the first one besides its own.  If every tick is
recorded, then the second run has the end of the first one as its first recording, and the other
recordings are those of one run.  A world without these runs is one that needs more entities than
there are. -/
theorem run_split {w : World} (hw : w.fault? = none) {dt t₁ t₂ : Float} (hle : t₁ ≤ t₂)
    {m₁ m₂ r₁ r₂ r : Nat} (ho₁ : Options.fault? ⟨dt, t₁, m₁, r₁⟩ = none)
    (ho₂ : Options.fault? ⟨dt, t₂, m₂, r₂⟩ = none) (hr : r ≠ 0) :
  (Entity.capacity < w.size ∧ ofWorld w = .error (.store .exhausted))
    ∨ ∃ b n, ofWorld w = .ok b
      ∧ let first := b.simulation.run ⟨dt, t₁, m₁, r₁⟩ b.schedule
        let second := first.simulation.run ⟨dt, t₂, m₂, r₂⟩ b.schedule
        let single := b.simulation.run ⟨dt, t₂, n + m₂, r⟩ b.schedule
        b.simulation.stateAfter? ⟨dt, t₁, m₁, r₁⟩ b.schedule n = some first.simulation
          ∧ b.simulation.stateAfter? ⟨dt, t₁, m₁, r₁⟩ b.schedule (n + 1) = none
          ∧ Options.fault? ⟨dt, t₂, n + m₂, r⟩ = none
          ∧ second.simulation = single.simulation
          ∧ ∃ samples₁ samples₂ samples, first.result = .ok samples₁
            ∧ second.result = .ok samples₂ ∧ single.result = .ok samples
            ∧ (r₁ = 1 → r₂ = 1 → r = 1 →
              ∃ rest, samples₂ = first.simulation.snapshot ++ rest ∧ samples = samples₁ ++ rest)
  := by
  have hvalid := World.fault?_eq_none_iff.1 hw
  rcases ofWorld_of_valid hvalid with hfull | ⟨b, hb⟩
  · exact .inl hfull
  right
  obtain ⟨sites, cs, hmirrors⟩ := mirrors_of_ofWorld hb
  have hnumeric := hmirrors.numeric
  have haddressed := hmirrors.addressed
  have htime := hmirrors.startTime dt
  obtain ⟨hfinite, hpos⟩ := dt_of_fault? ho₁
  have hmono : ∀ {i j}, i ≤ j → b.simulation.startTime dt i ≤ b.simulation.startTime dt j := by
    intro i j hij
    rw [htime, htime]
    apply tickTime_mono hfinite hpos hij
  obtain ⟨n, hn⟩ := Options.exists_lasts ⟨dt, t₁, m₁, r₁⟩ (b.simulation.startTime dt)
  obtain ⟨k, hk⟩ := Options.exists_lasts ⟨dt, t₂, m₂, r₂⟩
    ((b.simulation.performance dt b.schedule n).simulation.startTime dt)
  have ho : Options.fault? ⟨dt, t₂, n + m₂, r⟩ = none := by
    obtain ⟨hdt, htime₂, hm₂, -⟩ := Options.fault?_eq_none_iff.1 ho₂
    exact Options.fault?_eq_none_iff.2 ⟨hdt, htime₂, fun h => hm₂ (Nat.add_eq_zero_iff.1 h).2, hr⟩
  have hall : Options.Lasts ⟨dt, t₂, n + m₂, r⟩ (b.simulation.startTime dt) (n + k) := by
    apply Options.Lasts.add hle hn
    rw [funext (startTime_performance haddressed b.simulation dt n)] at hk
    apply hk
  have hfirst := run_eq ho₁ hnumeric haddressed b.simulation hn
  have hsecond := run_eq ho₂ hnumeric haddressed _ hk
  have hsingle := run_eq ho hnumeric haddressed b.simulation hall
  obtain ⟨hafter, hstates⟩ := stateAfter?_eq hnumeric haddressed b.simulation hn
  have hgoes := fun k => performance_performance hnumeric haddressed hmono n k
  refine ⟨b, n, hb, ?_⟩
  simp only [hfirst, hsecond, hsingle]
  refine ⟨hstates n (Nat.le_refl n), hafter, ho, hgoes k, _, _, _, rfl, rfl, rfl, ?_⟩
  rintro rfl rfl rfl
  refine ⟨_, ?_, samplesAt_recorded_one b.simulation dt b.schedule n k⟩
  have hsamples := samplesAt_recorded_one
    (b.simulation.performance dt b.schedule n).simulation dt b.schedule 0 k
  rw [Nat.zero_add] at hsamples
  rw [hsamples]
  simp only [Nat.zero_add, hgoes]
  congr 1
  simp [recorded, samplesAt, hgoes]

/-- A world with the joint `wheel`, whose regulator is given a set-point on the way. -/
def pushedWheel : World where
  version := 1
  name := "bench"
  models := [{
    name := "cart"
    joints := [{ name := "wheel" }]
    plugins := [{
      kind := .jointController
      params := .ofList [("joint_name", .text "wheel"), ("use_force_commands", .bool true),
        ("topic", .text "/go")] }] }]
  commands := [⟨0.25, "go", 2⟩]

/-- A run of a second may be interrupted after half of it. -/
theorem run_split_pushedWheel :
  ∃ b n, ofWorld pushedWheel = .ok b
    ∧ let first := b.simulation.run ⟨0.25, 0.5, 10, 1⟩ b.schedule
      let second := first.simulation.run ⟨0.25, 1, 10, 1⟩ b.schedule
      let single := b.simulation.run ⟨0.25, 1, n + 10, 1⟩ b.schedule
      second.simulation = single.simulation
        ∧ first.simulation.clock.time = 0.5 ∧ single.simulation.clock.time = 1
  := by
  have htimes : ((ofWorld pushedWheel).toOption.map fun b =>
      let first := b.simulation.run ⟨0.25, 0.5, 10, 1⟩ b.schedule
      let second := first.simulation.run ⟨0.25, 1, 10, 1⟩ b.schedule
      (first.simulation.clock.time, second.simulation.clock.time)) = some (0.5, 1) := by
    set_option maxRecDepth 10000 in
    decide +kernel
  have hworld : pushedWheel.fault? = none := by decide +kernel
  have hsize : ¬ Entity.capacity < pushedWheel.size := by decide +kernel
  have hle : (0.5 : Float) ≤ 1 := by decide +kernel
  have ho₁ : Options.fault? ⟨0.25, 0.5, 10, 1⟩ = none := by decide +kernel
  have ho₂ : Options.fault? ⟨0.25, 1, 10, 1⟩ = none := by decide +kernel
  rcases run_split hworld hle ho₁ ho₂ Nat.one_ne_zero with
    ⟨hfull, -⟩ | ⟨b, n, hb, -, -, -, hsame, -⟩
  · exact absurd hfull hsize
  · rw [hb] at htimes
    obtain ⟨hfirst, hsecond⟩ := Prod.mk.inj (Option.some.inj htimes)
    exact ⟨b, n, hb, hsame, hfirst, hsame ▸ hsecond⟩

end Simulation

end Servo
