import Servo.Proofs.Checklist
import Servo.Proofs.World.Valid
import Servo.World.File

/-!
# Demands on worlds

`World.demands` are the single demands on a world in the order in which they are checked, each with
the fault of a world that does not meet it.  `check_reports` says that a world is accepted exactly if
it is valid, which is if it meets all of them, and that otherwise the error is the fault of the first
demand that it does not meet.
-/

namespace Servo.World

/-! ### What is demanded -/

/-- A demand on a world. -/
structure Demand where
  met : Prop
  /-- The fault of a world that does not meet the demand. -/
  fault : Fault

/-- The demand is not met, and `f` is the fault. -/
def Demand.Broken (d : Demand) (f : Fault) : Prop := ¬ d.met ∧ d.fault = f

/-- What is demanded of parts in turn, of each with regard to the parts before it. -/
def inTurn {α : Type} (demands : (earlier : List α) → α → List Demand) (earlier : List α) :
    List α → List Demand
  | [] => []
  | a :: rest => demands earlier a ++ inTurn demands (earlier ++ [a]) rest

/-- What is demanded of physics. -/
def Physics.demands (p : Physics) : List Demand :=
  [⟨p.inertia.isFinite = true ∧ 0 < p.inertia, .inertia p.inertia⟩,
    ⟨p.damping.isFinite = true ∧ 0 ≤ p.damping, .damping p.damping⟩]

/-- What is demanded of a joint of a model, given the joints before it. -/
def Joint.demands (model : String) (earlier : List Joint) (j : Joint) : List Demand :=
  ⟨∀ i ∈ earlier, i.name ≠ j.name, .repeatedJoint model j.name⟩ ::
    j.initialVelocity.toList.map fun v =>
      ⟨v.isFinite = true, .initialVelocity model j.name v⟩

/-- What is demanded of a model, given the models before it. -/
def Model.demands (earlier : List Model) (m : Model) : List Demand :=
  ⟨∀ n ∈ earlier, n.name ≠ m.name, .repeatedModel m.name⟩ ::
    ⟨m.name ≠ "", .unnamedModel⟩ :: inTurn (Joint.demands m.name) [] m.joints

/-- What is demanded of a command. -/
def Command.demands (c : Command) : List Demand :=
  [⟨c.time.isFinite = true ∧ 0 ≤ c.time, .commandTime c.topic c.time⟩,
    ⟨Topic.valid c.topic = true, .commandTopic c.topic (.invalid c.topic)⟩]

/-- What is demanded of a world: of its version, its physics, its models one after the other, and
its commands. -/
def demands (w : World) : List Demand :=
  ⟨w.version = latestVersion, .version w.version⟩ ::
    (w.physics.demands ++ inTurn Model.demands [] w.models ++ w.commands.flatMap Command.demands)

/-! ### What is checked -/

theorem Demand.Broken.unique (d : Demand) (f g : Fault) (hf : d.Broken f) (hg : d.Broken g) :
  f = g
  := hf.2.symm.trans hg.2

/-- Nothing is broken exactly if all demands are met. -/
theorem clear_iff {ds : List Demand} :
  Clear Demand.Broken ds ↔ ∀ d ∈ ds, d.met
  := by
  constructor
  · intro h d hd
    by_contra hmet
    exact h d hd d.fault ⟨hmet, rfl⟩
  · rintro h d hd _ ⟨hmet, -⟩
    exact hmet (h d hd)

/-- A demand is checked before others: its fault comes out if it is not met, and otherwise what
comes out of the others. -/
theorem verdict_cons {p q : Prop} [Decidable q] (hpq : q ↔ ¬ p) (f : Fault) {ds : List Demand}
    {r : Option Fault} (h : Verdict Demand.Broken ds r) :
  Verdict Demand.Broken (⟨p, f⟩ :: ds) (if q then some f else r)
  := by
  split
  next hq => exact .found (firstFound_cons ⟨hpq.1 hq, rfl⟩ ds)
  next hq =>
    have hclear : Clear Demand.Broken [⟨p, f⟩] := by
      apply clear_singleton
      rintro _ ⟨hp, -⟩
      exact hq (hpq.2 hp)
    exact (Verdict.clear hclear).append h

theorem verdict_version (v : UInt32) :
  Verdict Demand.Broken [⟨v = latestVersion, .version v⟩] (versionFault? v)
  := by
  apply verdict_cons _ _ verdict_nil
  rw [latestVersion, ← UInt32.toNat_inj, ← UInt32.toNat_inj, UInt32.lt_iff_toNat_lt]
  show v.toNat = 0 ∨ 1 < v.toNat ↔ ¬ v.toNat = 1
  omega

/-- A number is out of bounds if it is not finite or beyond a bound. -/
theorem not_or_iff_not_and {a b c : Prop} (h : a → (b ↔ ¬ c)) :
  ¬ a ∨ b ↔ ¬ (a ∧ c)
  := by
  tauto

/-- Physics are checked. -/
theorem Physics.verdict (p : Physics) :
  Verdict Demand.Broken p.demands p.fault?
  := by
  apply verdict_cons
  · apply not_or_iff_not_and
    intro hfinite
    rw [← Binary64.not_le_zero_iff hfinite, Decidable.not_not]
  · apply verdict_cons _ _ verdict_nil
    apply not_or_iff_not_and
    intro hfinite
    rw [← Binary64.not_lt_zero_iff hfinite, Decidable.not_not]

/-- A command is checked. -/
theorem Command.verdict (c : Command) :
  Verdict Demand.Broken c.demands c.fault?
  := by
  apply verdict_cons
  · apply not_or_iff_not_and
    intro hfinite
    rw [← Binary64.not_lt_zero_iff hfinite, Decidable.not_not]
  · have h := verdict_cons (p := Topic.valid c.topic = true) (q := ¬ Topic.valid c.topic = true)
      Iff.rfl (.commandTopic c.topic (.invalid c.topic)) verdict_nil
    rw [Topic.ofString]
    split at h <;> simp_all

/-- The texts in `seen` are the names of the parts in `earlier`. -/
def AreNames {α : Type} (name : α → String) (seen : List String) (earlier : List α) : Prop :=
  ∀ s, s ∈ seen ↔ ∃ a ∈ earlier, name a = s

section

variable {α : Type} {name : α → String} {seen : List String} {earlier : List α}

theorem areNames_nil :
  AreNames name [] []
  := by
  intro s
  simp only [List.not_mem_nil, false_and, exists_false]

theorem AreNames.cons (h : AreNames name seen earlier) (a : α) :
  AreNames name (name a :: seen) (earlier ++ [a])
  := by
  intro s
  rw [List.mem_cons, h]
  simp only [List.mem_append, List.mem_singleton, or_and_right, exists_or, exists_eq_left]
  rw [or_comm, eq_comm]

/-- A part has the name of an earlier one exactly if not all of them have other names. -/
theorem AreNames.mem_iff (h : AreNames name seen earlier) (a : α) :
  name a ∈ seen ↔ ¬ ∀ i ∈ earlier, name i ≠ name a
  := by
  rw [h]
  push Not
  rfl

end

/-- The joints of a model are checked one after the other, given the names of those before. -/
theorem verdict_jointsFault? (model : String) {joints earlier : List Joint} {seen : List String}
    (hseen : AreNames Joint.name seen earlier) :
  Verdict Demand.Broken (inTurn (Joint.demands model) earlier joints)
    (jointsFault? model seen joints)
  := by
  induction joints generalizing earlier seen with
  | nil => exact verdict_nil
  | cons j rest ih =>
    have hrest := ih (hseen.cons j)
    rw [inTurn, Joint.demands, jointsFault?, List.cons_append]
    apply verdict_cons (hseen.mem_iff j)
    · cases j.initialVelocity with
      | none => exact hrest
      | some v => exact verdict_cons Iff.rfl _ hrest

/-- A model is checked, its name apart, which may be that of a model before. -/
theorem Model.verdict (m : Model) :
  Verdict Demand.Broken (⟨m.name ≠ "", .unnamedModel⟩ :: inTurn (Joint.demands m.name) [] m.joints)
    m.fault?
  := by
  apply verdict_cons not_not.symm
  apply verdict_jointsFault? _ areNames_nil

/-- The models are checked one after the other, given the names of those before. -/
theorem verdict_modelsFault? {models earlier : List Model} {seen : List String}
    (hseen : AreNames Model.name seen earlier) :
  Verdict Demand.Broken (inTurn Model.demands earlier models) (modelsFault? seen models)
  := by
  induction models generalizing earlier seen with
  | nil => exact verdict_nil
  | cons m rest ih =>
    have hrest := ih (hseen.cons m)
    rw [inTurn, Model.demands, modelsFault?, List.cons_append]
    apply verdict_cons (hseen.mem_iff m)
    · have h := m.verdict.append hrest
      cases hm : m.fault? <;> rw [hm] at h <;> exact h

/-- The commands are checked one after the other. -/
theorem verdict_commands (commands : List Command) :
  Verdict Demand.Broken (commands.flatMap Command.demands) (commands.findSome? Command.fault?)
  := by
  induction commands with
  | nil => exact verdict_nil
  | cons c rest ih =>
    rw [List.flatMap_cons, List.findSome?_cons]
    have h := c.verdict.append ih
    cases hc : c.fault? <;> rw [hc] at h <;> exact h

/-- A world is checked for all that is demanded of it, in turn. -/
theorem verdict_fault? (w : World) :
  Verdict Demand.Broken w.demands w.fault?
  := by
  have hmodels : Verdict Demand.Broken (inTurn Model.demands [] w.models)
      (modelsFault? [] w.models) :=
    verdict_modelsFault? areNames_nil
  have hparts := (w.physics.verdict.append hmodels).append (verdict_commands w.commands)
  rw [Option.or_assoc] at hparts
  exact (verdict_version w.version).append hparts

/-- A world is accepted exactly if it is valid, which it is if everything that is demanded of it is
met.  Otherwise the error is the fault of the first demand that is not met. -/
theorem check_reports (w : World) :
  (w.check = .ok w ↔ w.Valid)
    ∧ (w.Valid ↔ ∀ d ∈ w.demands, d.met)
    ∧ ∀ f, w.check = .error f ↔ FirstFound Demand.Broken w.demands f
  := by
  have hverdict := w.verdict_fault?
  have hvalid : w.check = .ok w ↔ w.fault? = none := by
    rw [check]
    cases w.fault? <;> simp
  have hfault : ∀ f, w.check = .error f ↔ w.fault? = some f := by
    intro f
    rw [check]
    cases w.fault? <;> simp
  refine ⟨hvalid.trans fault?_eq_none_iff, ?_, ?_⟩
  · rw [← fault?_eq_none_iff, hverdict.eq_none_iff, clear_iff]
  · intro f
    rw [hfault, hverdict.eq_some_iff Demand.Broken.unique]

end Servo.World
