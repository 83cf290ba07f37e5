import Servo.Dynamics
import Servo.Proofs.Binary64.Order
import Servo.World.Validity
import Mathlib.Data.List.Nodup

/-!
# Valid worlds

`World.Valid` says in one piece what is demanded of a world, and `World.fault?_eq_none_iff`
that exactly the valid worlds have no fault.
-/

namespace Servo

namespace Binary64

theorem not_le_zero_iff {x : Float} (hx : x.isFinite = true) :
  ¬ x ≤ 0 ↔ 0 < x
  := by
  have hzero : (0 : Float).isNaN = false := by decide +kernel
  have hnan := isNaN_of_isFinite hx
  rw [le_iff, lt_iff]
  simp only [hnan, hzero, true_and, Int.not_le]

theorem not_lt_zero_iff {x : Float} (hx : x.isFinite = true) :
  ¬ x < 0 ↔ 0 ≤ x
  := by
  have hzero : (0 : Float).isNaN = false := by decide +kernel
  have hnan := isNaN_of_isFinite hx
  rw [le_iff, lt_iff]
  simp only [hnan, hzero, true_and, Int.not_lt]

end Binary64

namespace World

/-- What is demanded of a joint, besides that its name is the only one in its model. -/
def Joint.Valid (j : Joint) : Prop := ∀ v, j.initialVelocity = some v → v.isFinite = true

/-- What is demanded of a model, besides that its name is the only one. -/
structure Model.Valid (m : Model) : Prop where
  named : m.name ≠ ""
  distinct : (m.joints.map (·.name)).Nodup
  joints : ∀ j ∈ m.joints, j.Valid

/-- What is demanded of a command. -/
structure Command.Valid (c : Command) : Prop where
  finite : c.time.isFinite = true
  nonneg : 0 ≤ c.time
  addressed : ∃ t, Topic.ofString c.topic = .ok t

/-- What is demanded of a world. -/
structure Valid (w : World) : Prop where
  version : w.version ≠ 0 ∧ w.version ≤ latestVersion
  inertia : w.physics.inertia.isFinite = true ∧ 0 < w.physics.inertia
  damping : w.physics.damping.isFinite = true ∧ 0 ≤ w.physics.damping
  distinct : (w.models.map (·.name)).Nodup
  models : ∀ m ∈ w.models, m.Valid
  commands : ∀ c ∈ w.commands, c.Valid

/-- Names differ from each other and from earlier ones if the first one does and the others
do, for which the first is an earlier one. -/
theorem distinct_cons_iff {α : Type} (name : α → String) (P : α → Prop) {a : α}
    {rest : List α} {seen : List String} :
  ((rest.map name).Nodup ∧ ∀ i ∈ rest, name i ∉ name a :: seen ∧ P i) ↔
    (name a ∉ rest.map name ∧ (rest.map name).Nodup) ∧ ∀ i ∈ rest, name i ∉ seen ∧ P i
  := by
  constructor
  · rintro ⟨hdistinct, hrest⟩
    refine ⟨⟨?_, hdistinct⟩, ?_⟩
    · intro hmem
      obtain ⟨i, hi, hname⟩ := List.mem_map.1 hmem
      apply (hrest i hi).1 (List.mem_cons.2 (.inl hname))
    · intro i hi
      exact ⟨fun hmem => (hrest i hi).1 (List.mem_cons_of_mem _ hmem), (hrest i hi).2⟩
  · rintro ⟨⟨hnew, hdistinct⟩, hrest⟩
    use hdistinct
    intro i hi
    refine ⟨?_, (hrest i hi).2⟩
    intro hmem
    rcases List.mem_cons.1 hmem with hname | hmem
    · apply hnew (List.mem_map.2 ⟨i, hi, hname⟩)
    · apply (hrest i hi).1 hmem

/-- The joints of a model have no fault if their names differ from each other and from
earlier ones, and if each is valid. -/
theorem jointsFault?_eq_none_iff {model : String} {joints : List Joint} {seen : List String} :
  jointsFault? model seen joints = none ↔
    (joints.map (·.name)).Nodup ∧ ∀ j ∈ joints, j.name ∉ seen ∧ j.Valid
  := by
  induction joints generalizing seen with
  | nil => simp [jointsFault?]
  | cons j rest ih =>
    rw [jointsFault?, List.map_cons, List.nodup_cons, List.forall_mem_cons]
    by_cases hseen : j.name ∈ seen
    · simp [hseen]
    · rw [if_neg hseen]
      cases hv : j.initialVelocity with
      | none =>
        have hj : j.Valid := by
          intro v h
          rw [hv] at h
          cases h
        simp only [ih, distinct_cons_iff Joint.name Joint.Valid, hseen, hj, not_false_eq_true,
          true_and]
      | some v =>
        have hj : j.Valid ↔ v.isFinite = true := by
          simp [Joint.Valid, hv]
        by_cases hfinite : v.isFinite = true
        · simp only [hfinite, not_true_eq_false, if_false, ih,
            distinct_cons_iff Joint.name Joint.Valid, hseen, hj, not_false_eq_true, true_and]
        · simp [hfinite, hj]

/-- A model has no fault exactly if it is valid. -/
theorem Model.fault?_eq_none_iff {m : Model} :
  m.fault? = none ↔ m.Valid
  := by
  rw [fault?]
  split
  next hname =>
    constructor
    · nofun
    · intro h
      exact absurd hname h.named
  next hname =>
    rw [jointsFault?_eq_none_iff]
    constructor
    · rintro ⟨hdistinct, hvalid⟩
      use hname, hdistinct, fun j hj => (hvalid j hj).2
    · intro h
      exact ⟨h.distinct, fun j hj => ⟨List.not_mem_nil, h.joints j hj⟩⟩

/-- The models have no fault if their names differ from each other and from earlier ones, and
if each is valid. -/
theorem modelsFault?_eq_none_iff {models : List Model} {seen : List String} :
  modelsFault? seen models = none ↔
    (models.map (·.name)).Nodup ∧ ∀ m ∈ models, m.name ∉ seen ∧ m.Valid
  := by
  induction models generalizing seen with
  | nil => simp [modelsFault?]
  | cons m rest ih =>
    rw [modelsFault?, List.map_cons, List.nodup_cons, List.forall_mem_cons]
    by_cases hseen : m.name ∈ seen
    · simp [hseen]
    · rw [if_neg hseen]
      cases hm : m.fault? with
      | some f =>
        have hnot : ¬ m.Valid := by
          rw [← Model.fault?_eq_none_iff, hm]
          nofun
        simp [hnot]
      | none =>
        have hvalid := Model.fault?_eq_none_iff.1 hm
        simp only [ih, distinct_cons_iff Model.name Model.Valid, hseen, hvalid,
          not_false_eq_true, true_and]

/-- A command has no fault exactly if it is valid. -/
theorem Command.fault?_eq_none_iff {c : Command} :
  c.fault? = none ↔ c.Valid
  := by
  rw [fault?]
  split
  next hbad =>
    constructor
    · nofun
    · intro h
      rcases hbad with hbad | hbad
      · exact absurd h.finite hbad
      · exact absurd hbad ((Binary64.not_lt_zero_iff h.finite).2 h.nonneg)
  next hgood =>
    obtain ⟨hfinite, hnonneg⟩ := not_or.1 hgood
    have hfinite : c.time.isFinite = true := Decidable.of_not_not hfinite
    cases ht : Topic.ofString c.topic with
    | ok t =>
      constructor
      · intro _
        exact ⟨hfinite, (Binary64.not_lt_zero_iff hfinite).1 hnonneg, t, ht⟩
      · intro _
        rfl
    | error e =>
      constructor
      · nofun
      · intro h
        obtain ⟨t, h⟩ := h.addressed
        rw [ht] at h
        cases h

/-- Physics have no fault exactly if the inertia is positive and the damping is not
negative. -/
theorem Physics.fault?_eq_none_iff {p : Physics} :
  p.fault? = none ↔ (p.inertia.isFinite = true ∧ 0 < p.inertia)
    ∧ p.damping.isFinite = true ∧ 0 ≤ p.damping
  := by
  rw [fault?]
  split
  next hbad =>
    constructor
    · nofun
    · rintro ⟨⟨hfinite, hpos⟩, -⟩
      rcases hbad with hbad | hbad
      · exact absurd hfinite hbad
      · exact absurd hbad ((Binary64.not_le_zero_iff hfinite).2 hpos)
  next hinertia =>
    obtain ⟨hfinite, hpos⟩ := not_or.1 hinertia
    have hfinite : p.inertia.isFinite = true := Decidable.of_not_not hfinite
    split
    next hbad =>
      constructor
      · nofun
      · rintro ⟨-, hfinite', hnonneg⟩
        rcases hbad with hbad | hbad
        · exact absurd hfinite' hbad
        · exact absurd hbad ((Binary64.not_lt_zero_iff hfinite').2 hnonneg)
    next hdamping =>
      obtain ⟨hfinite', hnonneg⟩ := not_or.1 hdamping
      have hfinite' : p.damping.isFinite = true := Decidable.of_not_not hfinite'
      constructor
      · intro _
        exact ⟨⟨hfinite, (Binary64.not_le_zero_iff hfinite).1 hpos⟩, hfinite',
          (Binary64.not_lt_zero_iff hfinite').1 hnonneg⟩
      · intro _
        rfl

theorem versionFault?_eq_none_iff {v : UInt32} :
  versionFault? v = none ↔ v ≠ 0 ∧ v ≤ latestVersion
  := by
  rw [versionFault?, ite_eq_right_iff]
  simp only [reduceCtorEq, imp_false, not_or, UInt32.not_lt, ne_eq]

/-- A world has no fault exactly if it is valid. -/
theorem fault?_eq_none_iff {w : World} :
  w.fault? = none ↔ w.Valid
  := by
  rw [fault?, Option.or_eq_none_iff, Option.or_eq_none_iff, Option.or_eq_none_iff,
    versionFault?_eq_none_iff, Physics.fault?_eq_none_iff, modelsFault?_eq_none_iff,
    List.findSome?_eq_none_iff]
  constructor
  · rintro ⟨hversion, ⟨hinertia, hdamping⟩, ⟨hdistinct, hmodels⟩, hcommands⟩
    exact ⟨hversion, hinertia, hdamping, hdistinct, fun m hm => (hmodels m hm).2,
      fun c hc => Command.fault?_eq_none_iff.1 (hcommands c hc)⟩
  · intro h
    exact ⟨h.version, ⟨h.inertia, h.damping⟩,
      ⟨h.distinct, fun m hm => ⟨List.not_mem_nil, h.models m hm⟩⟩,
      fun c hc => Command.fault?_eq_none_iff.2 (h.commands c hc)⟩

/-- The physics of a valid world give dynamics. -/
theorem Valid.ofNumbers {w : World} (h : w.Valid) :
  Dynamics.ofNumbers w.physics.inertia w.physics.damping
    = .ok ⟨w.physics.inertia, w.physics.damping⟩
  := by
  have hinertia : ¬ (¬ w.physics.inertia.isFinite = true ∨ w.physics.inertia ≤ 0) := by
    rintro (hinfinite | hle)
    · apply hinfinite h.inertia.1
    · apply (Binary64.not_le_zero_iff h.inertia.1).2 h.inertia.2 hle
  have hdamping : ¬ (¬ w.physics.damping.isFinite = true ∨ w.physics.damping < 0) := by
    rintro (hinfinite | hlt)
    · apply hinfinite h.damping.1
    · apply (Binary64.not_lt_zero_iff h.damping.1).2 h.damping.2 hlt
  rw [Dynamics.ofNumbers, if_neg hinertia, if_neg hdamping]

end World

end Servo
