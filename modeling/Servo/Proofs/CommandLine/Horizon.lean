import Servo.CommandLine.Report
import Servo.Proofs.Binary64.Sum
import Servo.Proofs.Simulation.Labels
import Servo.Proofs.Simulation.Splitting

/-!
# How far a run of the command line goes

The options of the command line do not say how many ticks a run may make, so there is always the
same limit (`maxSteps_of_ofArguments?`).  What a successful run exports ends at the first tick that
is not before the end time, unless the limit comes first (`export_ends`); and the limit comes first
if the ticks are short, since `k` ticks of at most `2 ^ q` do not last longer than `k * 2 ^ q`
(`upTo_tickTime`).
-/

namespace Servo

deriving instance DecidableEq for Simulation.Options, Command

/-! ### Options -/

namespace Command

/-- No arguments change the number of ticks that a run may make. -/
theorem maxSteps_of_ofArguments? {arguments : List String} {path : String}
    {o : Simulation.Options} {output : Option String}
    (h : ofArguments? arguments = some (.run path o output)) :
  o.maxSteps = ({} : Simulation.Options).maxSteps
  := by
  have hother : ∀ (as : List Argument) (c : String → Command), (∀ s, c s ≠ .run path o output) →
      (if as.length = 1 then (path? as).map c else none) ≠ some (.run path o output) := by
    intro as c hc hsome
    split at hsome
    · obtain ⟨s, -, hs⟩ := Option.map_eq_some_iff.1 hsome
      apply hc s hs
    · cases hsome
  unfold ofArguments? at h
  split at h
  · obtain ⟨as, -, hvalidate⟩ := Option.bind_eq_some_iff.1 h
    exact absurd hvalidate (hother as _ nofun)
  · obtain ⟨as, -, hmodels⟩ := Option.bind_eq_some_iff.1 h
    exact absurd hmodels (hother as _ nofun)
  · obtain ⟨as, -, hrun⟩ := Option.bind_eq_some_iff.1 h
    simp only [run?, Option.bind_eq_bind, Option.bind_eq_some_iff, Option.pure_def,
      Option.some.injEq, Command.run.injEq] at hrun
    obtain ⟨_, -, _, -, _, -, _, -, _, -, _, -, -, rfl, -⟩ := hrun
    rfl
  · cases h

end Command

namespace Simulation

/-! ### Short ticks -/

/-- Ticks that are not longer than a power of two do not last longer than their number of times that
power. -/
theorem upTo_tickTime {dt : Float} {j : Nat} (h : Binary64.UpTo (2 ^ j) dt) (hj : 52 ≤ j)
    (hj' : j ≤ 2000) {k : Nat} (hk : 0 < k) (hlt : k < 2 ^ 53) :
  Binary64.UpTo (k * 2 ^ j) (tickTime dt k)
  := by
  induction k, hk using Nat.le_induction with
  | base =>
    rw [Nat.succ_mul, Nat.zero_mul, Nat.zero_add]
    apply h.zero_add
  | succ k hk ih =>
    have hbefore := ih (Nat.lt_of_succ_lt hlt)
    obtain ⟨p, q, hcanonical, hsize, hscaled⟩ :=
      Binary64.exists_canonical (Nat.succ_pos k) hlt hj hj'
    rw [← Nat.succ_eq_add_one, ← hscaled]
    apply hbefore.add h hcanonical hsize
    rw [hscaled, Nat.succ_mul]

/-! ### The last sample -/

theorem time_of_mem_snapshot {sim : Simulation} {s : Sample} (h : s ∈ sim.snapshot) :
  s.time = sim.clock.time
  := by
  obtain ⟨e, -, rfl⟩ := List.mem_map.1 h
  rfl

/-- The last sample of a run of a world with joints tells the time after its last tick. -/
theorem last_sample {w : World} {b : Built} (hb : ofWorld w = .ok b) (hjoints : w.joints ≠ [])
    {o : Options} {samples : List Sample}
    (h : (b.simulation.run o b.schedule).result = .ok samples) :
  ∃ n s, o.Lasts (tickTime o.dt) n
    ∧ b.simulation.stateAfter? o b.schedule n = some (b.simulation.run o b.schedule).simulation
    ∧ b.simulation.stateAfter? o b.schedule (n + 1) = none
    ∧ samples.getLast? = some s ∧ s.time = tickTime o.dt n
  := by
  obtain ⟨sites, cs, hmirrors⟩ := mirrors_of_ofWorld hb
  obtain ⟨n, hn⟩ := o.exists_lasts (b.simulation.startTime o.dt)
  have hstart : b.simulation.startTime o.dt = tickTime o.dt := by
    funext k
    apply hmirrors.startTime
  obtain ⟨hend, hstates⟩ := stateAfter?_eq hmirrors.numeric hmirrors.addressed b.simulation hn
  have hrun := run_eq (fault?_of_run h) hmirrors.numeric hmirrors.addressed b.simulation hn
  have hreached := (samples_of_run b.simulation o b.schedule).1
  have hlabels := labels_snapshot ((hmirrors.laid hb).congr hreached.outline)
  have htime : (b.simulation.run o b.schedule).simulation.clock.time = tickTime o.dt n := by
    rw [hrun, clock_performance hmirrors.addressed, ← hstart]
    rfl
  have hnonempty : (b.simulation.run o b.schedule).simulation.snapshot ≠ [] := by
    intro hnone
    rw [hnone, World.labels, eq_comm, List.map_nil, List.map_eq_nil_iff] at hlabels
    apply hjoints hlabels
  obtain ⟨before, s, hs⟩ := (List.eq_nil_or_concat' _).resolve_left hnonempty
  have hsamples : ∃ earlier, samples
      = earlier ++ (b.simulation.run o b.schedule).simulation.snapshot := by
    obtain ⟨ticks, hticks⟩ := List.getLast?_eq_some_iff.1 (recorded_increasing o.recordEvery n).2
    rw [hrun] at h ⊢
    cases h
    rw [samplesAt, hticks, List.flatMap_append, List.flatMap_singleton]
    exact ⟨_, rfl⟩
  obtain ⟨earlier, rfl⟩ := hsamples
  rw [hstart] at hn
  refine ⟨n, s, hn, ?_, hend, ?_, ?_⟩
  · rw [hstates n (Nat.le_refl n), hrun]
  · rw [hs, ← List.append_assoc, List.getLast?_concat]
  · rw [← htime]
    apply time_of_mem_snapshot
    rw [hs]
    simp

/-- The run of what is built from a world succeeds if the options can be used. -/
theorem exists_samples {w : World} {b : Built} (hb : ofWorld w = .ok b) {o : Options}
    (ho : o.fault? = none) :
  ∃ samples, (b.simulation.run o b.schedule).result = .ok samples
  := by
  obtain ⟨sites, cs, hmirrors⟩ := mirrors_of_ofWorld hb
  obtain ⟨n, hn⟩ := o.exists_lasts (b.simulation.startTime o.dt)
  rw [run_eq ho hmirrors.numeric hmirrors.addressed b.simulation hn]
  exact ⟨_, rfl⟩

end Simulation

/-! ### What is exported -/

namespace Command

/-- A run of the command line exports the samples of the run of its world. -/
theorem runWorld_eq {w : World} {b : Simulation.Built} (hb : Simulation.ofWorld w = .ok b)
    {o : Simulation.Options} {samples : List Sample}
    (h : (b.simulation.run o b.schedule).result = .ok samples) (output : Option String) :
  ((runWorld w o output).printed, (runWorld w o output).result)
    = ((exportSamples samples output).1, .ok (exportSamples samples output).2)
  := by
  simp only [runWorld, hb, h]

/-- A run of the command line succeeds only if the run of its world does. -/
theorem runWorld_eq_ok {w : World} {o : Simulation.Options} {output : Option String}
    {file : Option Output} (h : (runWorld w o output).result = .ok file) :
  ∃ b samples, Simulation.ofWorld w = .ok b
    ∧ (b.simulation.run o b.schedule).result = .ok samples
    ∧ ((runWorld w o output).printed, file) = exportSamples samples output
  := by
  cases hb : Simulation.ofWorld w with
  | error e => simp [runWorld, hb] at h
  | ok b =>
    cases hsamples : (b.simulation.run o b.schedule).result with
    | error e => simp [runWorld, hb, hsamples] at h
    | ok samples =>
      obtain ⟨hprinted, hresult⟩ := Prod.mk.inj (runWorld_eq hb hsamples output)
      rw [hresult] at h
      cases h
      exact ⟨b, samples, rfl, hsamples, by rw [hprinted]⟩

/-- The last sample that a successful run of the command line exports of a world with joints is at
the end time or later, or the run has made as many ticks as it may make and has stopped before the
end time.  So what it exports ends too early exactly if that many ticks do not last until the end
time. -/
theorem export_ends {arguments : List String} {path : String} {o : Simulation.Options}
    {output : Option String} {w : World} {file : Option Output}
    (harguments : ofArguments? arguments = some (.run path o output)) (hjoints : w.joints ≠ [])
    (hsuccess : ((Command.run path o output).performOn w).result = .ok file) :
  ∃ b samples n s, Simulation.ofWorld w = .ok b
    ∧ (b.simulation.run o b.schedule).result = .ok samples
    ∧ b.simulation.stateAfter? o b.schedule n = some (b.simulation.run o b.schedule).simulation
    ∧ b.simulation.stateAfter? o b.schedule (n + 1) = none
    ∧ (((Command.run path o output).performOn w).printed, file) = exportSamples samples output
    ∧ samples.getLast? = some s ∧ s.time = Simulation.tickTime o.dt n
    ∧ (o.endTime ≤ s.time ∨ n = 100000 ∧ s.time < o.endTime)
    ∧ (s.time < o.endTime ↔ Simulation.tickTime o.dt 100000 < o.endTime)
  := by
  have hlimit : o.maxSteps = 100000 := maxSteps_of_ofArguments? harguments
  obtain ⟨b, samples, hb, hsamples, hexported⟩ := runWorld_eq_ok hsuccess
  have ho := Simulation.fault?_of_run hsamples
  obtain ⟨hfinite, hpos⟩ := Simulation.dt_of_fault? ho
  have hend := (Simulation.Options.fault?_eq_none_iff.1 ho).2.1
  obtain ⟨n, s, hn, hlast, hnone, hs, htime⟩ := Simulation.last_sample hb hjoints hsamples
  have hle : n ≤ 100000 := hlimit ▸ hn.allowed
  have hshort : s.time < o.endTime → n = 100000 := by
    intro hearly
    rw [htime] at hearly
    rcases hn.last with hall | hlate
    · rw [hall, hlimit]
    · exact absurd hearly hlate
  refine ⟨b, samples, n, s, hb, hsamples, hlast, hnone, hexported, hs, htime, ?_, ?_⟩
  · by_cases hearly : s.time < o.endTime
    · exact .inr ⟨hshort hearly, hearly⟩
    · left
      apply Binary64.le_of_not_lt _ (Binary64.isNaN_of_isFinite hend.1) hearly
      rw [htime]
      apply Simulation.isNaN_tickTime hfinite hpos
  · constructor
    · intro hearly
      have hall := hshort hearly
      rw [htime, hall] at hearly
      apply hearly
    · intro hearly
      rw [htime]
      apply Binary64.lt_of_le_of_lt (Simulation.tickTime_mono hfinite hpos hle) hearly

/-- A world with one joint. -/
def wagon : World where
  version := 1
  name := "w"
  models := [{ name := "cart", joints := [{ name := "wheel" }] }]

/-- A valid world of two entities is run with all options that can be used. -/
theorem performOn_wagon {o : Simulation.Options} (ho : o.fault? = none) (path : String) :
  ∃ b samples, Simulation.ofWorld wagon = .ok b
    ∧ (b.simulation.run o b.schedule).result = .ok samples
    ∧ ((Command.run path o none).performOn wagon).result = .ok none
    ∧ ((Command.run path o none).performOn wagon).printed = Export.table samples
  := by
  have hvalid : wagon.fault? = none := by decide +kernel
  rcases Simulation.ofWorld_of_valid (World.fault?_eq_none_iff.1 hvalid) with ⟨hfull, -⟩ | ⟨b, hb⟩
  · exact absurd hfull (by decide)
  · obtain ⟨samples, hsamples⟩ := Simulation.exists_samples hb ho
    obtain ⟨hprinted, hresult⟩ := Prod.mk.inj (runWorld_eq hb hsamples none)
    exact ⟨b, samples, hb, hsamples, hresult, hprinted⟩

/-- A run over half a second in steps of a quarter reaches its end. -/
theorem export_ends_wagon :
  let o : Simulation.Options := { dt := 0.25, endTime := 0.5 }
  ofArguments? ["run", "w.yaml", "--t-end", "0.5", "--dt", "0.25"] = some (.run "w.yaml" o none)
    ∧ ((Command.run "w.yaml" o none).performOn wagon).result = .ok none
    ∧ ∃ samples s, ((Command.run "w.yaml" o none).performOn wagon).printed = Export.table samples
      ∧ samples.getLast? = some s ∧ o.endTime ≤ s.time
  := by
  intro o
  have harguments : ofArguments? ["run", "w.yaml", "--t-end", "0.5", "--dt", "0.25"]
      = some (.run "w.yaml" o none) := by
    decide +kernel
  have hoptions : o.fault? = none := by decide +kernel
  obtain ⟨-, -, -, -, hsuccess, -⟩ := performOn_wagon hoptions "w.yaml"
  obtain ⟨b, samples, n, s, -, -, -, -, hexported, hs, -, hend | ⟨-, hearly⟩, hshort⟩ :=
    export_ends harguments (by decide) hsuccess
  · exact ⟨harguments, hsuccess, samples, s, (Prod.mk.inj hexported).1, hs, hend⟩
  · have htwo : o.endTime ≤ Simulation.tickTime o.dt 100000 := by
      apply Binary64.le_trans (y := Simulation.tickTime o.dt 2) (by decide +kernel)
      apply Simulation.tickTime_mono (by decide +kernel) (by decide +kernel) (by decide)
    exact absurd (hshort.1 hearly) (Binary64.not_lt_of_le htwo)

/-- A run over more than three minutes with the step that is used unless another one is asked for
succeeds, although it ends before the end time. -/
theorem export_of_long_run :
  let o : Simulation.Options := { endTime := 200, recordEvery := 1000000 }
  wagon.fault? = none ∧ wagon.joints ≠ []
    ∧ ofArguments? ["run", "w.yaml", "--t-end", "200", "--record-every", "1000000"]
      = some (.run "w.yaml" o none)
    ∧ ((Command.run "w.yaml" o none).performOn wagon).result = .ok none
    ∧ ∃ samples s, ((Command.run "w.yaml" o none).performOn wagon).printed = Export.table samples
      ∧ samples.getLast? = some s ∧ s.time < o.endTime
  := by
  intro o
  have hoptions : o.fault? = none := by decide +kernel
  obtain ⟨b, samples, hb, hsamples, hsuccess, hprinted⟩ := performOn_wagon hoptions "w.yaml"
  obtain ⟨n, s, hn, -, -, hs, htime⟩ := Simulation.last_sample hb (by decide) hsamples
  refine ⟨by decide +kernel, by decide, by decide +kernel, hsuccess, samples, s, hprinted, hs, ?_⟩
  -- The step is the number nearest to a thousandth, and a step of 2 ^ -9 is not shorter.
  have hstep : Binary64.UpTo (2 ^ 1065) o.dt := by
    have hcanonical : Binary64.Canonical 0x10624DD2F1A9FC (-62) := by constructor <;> decide
    apply (Binary64.UpTo.of_place hcanonical (by decide) (by decide +kernel)
      (by decide +kernel)).mono
    decide +kernel
  have hall := Simulation.upTo_tickTime hstep (by decide) (by decide) (k := 100000) (by decide)
    (by decide)
  have hend : Simulation.tickTime o.dt 100000 < o.endTime := by
    have hcanonical : Binary64.Canonical (200 * 2 ^ 45) (-45) := by constructor <;> decide
    apply hall.lt hcanonical (by decide +kernel) (by decide +kernel)
    decide +kernel
  rw [htime]
  apply Binary64.lt_of_le_of_lt _ hend
  apply Simulation.tickTime_mono (by decide +kernel) (by decide +kernel) hn.allowed

end Command

end Servo
