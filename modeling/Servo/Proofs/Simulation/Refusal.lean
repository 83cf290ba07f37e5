import Servo.Proofs.Simulation.Assembly
import Servo.Proofs.Simulation.Capacity
import Servo.Proofs.Simulation.SetPoint

/-!
# What is refused

Building and running have many places where they may fail.  `refused_for_faults` says that none of
them matters once a world and the options of a run were checked: a world is refused for a fault of
the world, a run for a fault of its options, and for nothing else.
-/

namespace Servo.Simulation

/-! ### Worlds -/

/-- A world with a fault is refused for it. -/
theorem ofWorld_of_fault {w : World} {f : World.Fault} (h : w.fault? = some f) :
  ofWorld w = .error (.world f)
  := by
  rw [ofWorld, h]
  rfl

/-- A world for which there are enough entities is refused for a fault or built. -/
theorem ofWorld_eq_error_iff {w : World} (hsize : w.size ≤ Entity.capacity) {e : Error} :
  ofWorld w = .error e ↔ ∃ f, w.fault? = some f ∧ e = .world f
  := by
  cases hfault : w.fault? with
  | some f =>
    rw [ofWorld_of_fault hfault]
    constructor
    · intro h
      cases h
      exact ⟨f, rfl, rfl⟩
    · rintro ⟨g, hg, rfl⟩
      cases hg
      rfl
  | none =>
    obtain ⟨b, hb⟩ := (ofWorld_cases (World.fault?_eq_none_iff.1 hfault)).1 hsize
    rw [hb]
    constructor
    · nofun
    · nofun

/-- A world for which there are enough entities is built exactly if it has no fault. -/
theorem exists_ofWorld_iff {w : World} (hsize : w.size ≤ Entity.capacity) :
  (∃ b, ofWorld w = .ok b) ↔ w.fault? = none
  := by
  constructor
  · rintro ⟨b, hb⟩
    exact World.fault?_eq_none_iff.2 (ofWorld_eq_ok hb).1
  · intro hfault
    exact (ofWorld_cases (World.fault?_eq_none_iff.1 hfault)).1 hsize

/-! ### Runs -/

/-- A run whose options have a fault is refused for it, and nothing happens. -/
theorem run_of_fault {o : Options} {a : Argument} (h : o.fault? = some a) (sim : Simulation)
    (commands : List Scheduled) :
  sim.run o commands = ⟨sim, [], .error (.argument a)⟩
  := by
  rw [run, h]

/-- With commands that can be published a run is refused for a fault of its options, or it
succeeds. -/
theorem result_run_eq_error_iff {commands : List Scheduled} (hnumeric : Numeric commands)
    (haddressed : Addressed commands) (sim : Simulation) {o : Options} {e : Error} :
  (sim.run o commands).result = .error e ↔ ∃ a, o.fault? = some a ∧ e = .argument a
  := by
  cases hfault : o.fault? with
  | some a =>
    rw [run_of_fault hfault]
    constructor
    · intro h
      cases h
      exact ⟨a, rfl, rfl⟩
    · rintro ⟨a', ha', rfl⟩
      cases ha'
      rfl
  | none =>
    obtain ⟨n, hn⟩ := o.exists_lasts (sim.startTime o.dt)
    rw [run_eq hfault hnumeric haddressed sim hn]
    constructor
    · nofun
    · nofun

/-- Worlds and runs are refused for their faults only.  A world for which there are enough entities
is built exactly if it has no fault, and otherwise the error is the fault.  With the commands of
what was built any simulation, whatever it has gone through, runs exactly if the options have no
fault, and otherwise nothing happens to it; in particular every command can be published. -/
theorem refused_for_faults {w : World} (hsize : w.size ≤ Entity.capacity) :
  ((∃ b, ofWorld w = .ok b) ↔ w.fault? = none)
    ∧ (∀ e, ofWorld w = .error e →
      ∃ f, w.fault? = some f ∧ e = .world f ∧ e.message = "Project error: " ++ f.message)
    ∧ ∀ b, ofWorld w = .ok b → ∀ (sim : Simulation) (o : Options),
      ((∃ e, (sim.run o b.schedule).result = .error e) ↔ o.fault? ≠ none)
        ∧ (∀ a, o.fault? = some a → sim.run o b.schedule = ⟨sim, [], .error (.argument a)⟩)
        ∧ ∀ e, (sim.run o b.schedule).result ≠ .error (.topic e)
  := by
  refine ⟨exists_ofWorld_iff hsize, ?_, ?_⟩
  · intro e he
    obtain ⟨f, hf, rfl⟩ := (ofWorld_eq_error_iff hsize).1 he
    exact ⟨f, hf, rfl, rfl⟩
  · intro b hb sim o
    obtain ⟨hvalid, hschedule, -⟩ := ofWorld_eq_ok hb
    rw [hschedule]
    have hresult := fun e => result_run_eq_error_iff (o := o) (e := e) (numeric_schedule hvalid)
      (addressed_schedule hvalid) sim
    refine ⟨?_, fun a ha => run_of_fault ha sim _, ?_⟩
    · rw [Option.ne_none_iff_exists']
      constructor
      · rintro ⟨e, he⟩
        obtain ⟨a, ha, -⟩ := (hresult e).1 he
        exact ⟨a, ha⟩
      · rintro ⟨a, ha⟩
        exact ⟨_, (hresult _).2 ⟨a, ha, rfl⟩⟩
    · intro e he
      obtain ⟨a, -, ha⟩ := (hresult _).1 he
      cases ha

/-- A world that is valid by a hair: its damping and the time of its command are the negative
zero, and the topic ends with a slash. -/
def barelyValid : World where
  version := 1
  name := "bench"
  physics := { damping := -0.0 }
  models := [{ name := "cart", joints := [{ name := "" }] }]
  commands := [⟨-0.0, "go/", 2⟩]

/-- The same world with an inertia that is none. -/
def barelyInvalid : World := { barelyValid with physics := { inertia := -0.0 } }

/-- The first world is built, and a simulation runs with its commands if the steps have a length;
the second world is not built. -/
theorem refused_for_faults_barelyValid :
  (∃ b, ofWorld barelyValid = .ok b ∧ ∀ sim : Simulation,
      (¬ ∃ e, (sim.run ⟨0.5, 1, 10, 1⟩ b.schedule).result = .error e)
        ∧ sim.run ⟨-0.0, 1, 10, 1⟩ b.schedule = ⟨sim, [], .error (.argument .timeStep)⟩)
    ∧ ¬ ∃ b, ofWorld barelyInvalid = .ok b
  := by
  have hsize : barelyValid.size ≤ Entity.capacity := by decide +kernel
  have hvalid : barelyValid.fault? = none := by decide +kernel
  have hinvalid : barelyInvalid.fault? ≠ none := by decide +kernel
  have hsteps : Options.fault? ⟨0.5, 1, 10, 1⟩ = none := by decide +kernel
  have hstands : Options.fault? ⟨-0.0, 1, 10, 1⟩ = some .timeStep := by decide +kernel
  obtain ⟨hbuilt, -, hrun⟩ := refused_for_faults hsize
  obtain ⟨hunbuilt, -, -⟩ := refused_for_faults (w := barelyInvalid) hsize
  obtain ⟨b, hb⟩ := hbuilt.2 hvalid
  refine ⟨⟨b, hb, ?_⟩, fun h => hinvalid (hunbuilt.1 h)⟩
  intro sim
  constructor
  · intro hrefused
    exact (hrun b hb sim _).1.1 hrefused hsteps
  · exact (hrun b hb sim _).2.1 _ hstands

end Servo.Simulation
