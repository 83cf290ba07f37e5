import Servo.Proofs.Decimal.Magnitude
import Servo.Proofs.Regulator.Limits

/-!
# What a regulator remembers

A regulator `Follows` its updates: its integral adds up all of them, its rate of change comes from
those alone that are `lasting`, and its command from both of these and the latest error.
`follows_after` says so of a regulator after all updates since it was new, and that updates which
take no time leave no trace in the rate of change.
-/

namespace Servo.Regulator

/-! ### Histories -/

/-- An update that takes no time: it lasts for one of the two zeros.  What is not a number is none
of them. -/
def IsIdle (u : Float × Float) : Prop := u.2 = 0 ∨ u.2 = -0

instance (u : Float × Float) : Decidable (IsIdle u) := inferInstanceAs (Decidable (_ ∨ _))

/-- The updates that take time. -/
def lasting (updates : List (Float × Float)) : List (Float × Float) :=
  updates.filter fun u => ¬ IsIdle u

/-- The error of the last update; it is zero if there is none. -/
def latestError (updates : List (Float × Float)) : Float :=
  match updates.getLast? with
  | none => 0
  | some (error, _) => error

/-- The rate at which the error changed from the last update but one, or from zero, to the last
update; it is zero if there is none. -/
def latestRate (updates : List (Float × Float)) : Float :=
  match updates.getLast? with
  | none => 0
  | some (error, dt) => (error - latestError updates.dropLast) / dt

/-- The errors of all updates added up for the time they lasted, with limits at every one. -/
def accumulated (g : Gains) (updates : List (Float × Float)) : Float :=
  updates.foldl
    (fun integral u => limit (integral + g.integral * u.1 * u.2) g.integralMin g.integralMax) 0

/-- The command for the error of the last update; it is zero if there is none. -/
def latestCommand (g : Gains) (updates : List (Float × Float)) : Float :=
  match updates.getLast? with
  | none => 0
  | some (error, _) =>
    limit (g.proportional * error + accumulated g updates
      + g.derivative * latestRate (lasting updates) + g.offset) g.commandMin g.commandMax

/-- What a regulator with the gains `g` remembers of all updates since it was new. -/
structure Follows (g : Gains) (updates : List (Float × Float)) (r : Regulator) : Prop where
  gains : r.gains = g
  lastError : r.state.lastError = latestError (lasting updates)
  errorRate : r.state.errorRate = latestRate (lasting updates)
  integral : r.state.integral = accumulated g updates
  output : r.state.output = latestCommand g updates

/-- Two regulators remember the same last error and the same rate of change. -/
structure SameRate (r r' : Regulator) : Prop where
  lastError : r.state.lastError = r'.state.lastError
  errorRate : r.state.errorRate = r'.state.errorRate

/-! ### One more update -/

/-- The error of the last of some updates is that of the one that was added. -/
@[simp]
theorem latestError_concat (updates : List (Float × Float)) (error dt : Float) :
  latestError (updates ++ [(error, dt)]) = error
  := by
  simp [latestError]

/-- The rate of change at an update that was added comes from the error of the one before. -/
@[simp]
theorem latestRate_concat (updates : List (Float × Float)) (error dt : Float) :
  latestRate (updates ++ [(error, dt)]) = (error - latestError updates) / dt
  := by
  simp [latestRate]

theorem lasting_concat_of_isIdle {u : Float × Float} (h : IsIdle u)
    (updates : List (Float × Float)) :
  lasting (updates ++ [u]) = lasting updates
  := by
  simp [lasting, h]

theorem lasting_concat {u : Float × Float} (h : ¬ IsIdle u) (updates : List (Float × Float)) :
  lasting (updates ++ [u]) = lasting updates ++ [u]
  := by
  simp [lasting, h]

theorem accumulated_concat (g : Gains) (updates : List (Float × Float)) (error dt : Float) :
  accumulated g (updates ++ [(error, dt)]) = integrate g (accumulated g updates) error dt
  := by
  rw [accumulated, List.foldl_append]
  rfl

/-- A regulator that follows some updates follows one more. -/
theorem Follows.update {g : Gains} {updates : List (Float × Float)} {r : Regulator}
    (h : Follows g updates r) (error dt : Float) :
  Follows g (updates ++ [(error, dt)]) (r.update error dt)
  := by
  have hintegral : (r.update error dt).state.integral
      = accumulated g (updates ++ [(error, dt)]) := by
    rw [accumulated_concat, ← h.integral, ← h.gains]
    rfl
  have hidle : IsIdle (error, dt) ↔ (dt == 0) = true := beq_zero_iff.symm
  obtain ⟨hlast, hrate⟩ :
      (r.update error dt).state.lastError = latestError (lasting (updates ++ [(error, dt)]))
        ∧ (r.update error dt).state.errorRate
          = latestRate (lasting (updates ++ [(error, dt)])) := by
    by_cases hdt : (dt == 0) = true
    · rw [lasting_concat_of_isIdle (hidle.2 hdt), ← h.lastError, ← h.errorRate]
      exact ⟨if_pos hdt, if_pos hdt⟩
    · rw [lasting_concat (mt hidle.1 hdt), latestError_concat, latestRate_concat, ← h.lastError]
      exact ⟨if_neg hdt, if_neg hdt⟩
  constructor
  case gains => apply h.gains
  case lastError => apply hlast
  case errorRate => apply hrate
  case integral => apply hintegral
  case output =>
    rw [latestCommand, List.getLast?_concat]
    dsimp only
    rw [← hintegral, ← hrate, ← h.gains]
    rfl

/-! ### All updates -/

/-- A new regulator follows all updates that are made with it. -/
theorem follows_updates (g : Gains) (updates : List (Float × Float)) :
  Follows g updates (after { gains := g } updates)
  := by
  induction updates using List.reverseRecOn with
  | nil => exact ⟨rfl, rfl, rfl, rfl, rfl⟩
  | append_singleton updates u ih =>
    rw [after, List.foldl_append]
    apply ih.update

/-- Regulators that follow the same lasting updates have the same rate of change. -/
theorem Follows.sameRate {g : Gains} {updates updates' : List (Float × Float)} {r r' : Regulator}
    (h : Follows g updates r) (h' : Follows g updates' r')
    (hlasting : lasting updates = lasting updates') :
  SameRate r r'
  := by
  constructor
  case lastError => rw [h.lastError, hlasting, h'.lastError]
  case errorRate => rw [h.errorRate, hlasting, h'.errorRate]

/-- Idle updates are not lasting, wherever they are inserted. -/
theorem lasting_insert {idle : List (Float × Float)} (h : ∀ u ∈ idle, IsIdle u)
    (before later : List (Float × Float)) :
  lasting (before ++ idle ++ later) = lasting (before ++ later)
  := by
  have hidle : idle.filter (fun u => ¬ IsIdle u) = [] := by simpa using h
  simp only [lasting, List.filter_append, hidle, List.append_nil]

/-- **A new regulator follows its updates.**  Its last error and its rate of change come from the
latest updates that took time; its integral adds up all updates; and its output is the command for
the latest error.  Idle updates can be inserted or left out anywhere without a change of the last
error and of the rate of change. -/
theorem follows_after (g : Gains) (updates : List (Float × Float)) :
  Follows g updates (after { gains := g } updates)
    ∧ (∀ others, lasting others = lasting updates →
        SameRate (after { gains := g } others) (after { gains := g } updates))
    ∧ ∀ before idle later, before ++ later = updates → (∀ u ∈ idle, IsIdle u) →
        SameRate (after { gains := g } (before ++ idle ++ later)) (after { gains := g } updates)
  := by
  have hfollows := follows_updates g
  refine ⟨hfollows updates, ?_, ?_⟩
  · intro others hlasting
    apply (hfollows others).sameRate (hfollows updates) hlasting
  · rintro before idle later rfl hidle
    apply (hfollows _).sameRate (hfollows _) (lasting_insert hidle before later)

/-- Updates for one zero and for the other change neither the last error nor the rate of change
that an update for half a second left. -/
theorem follows_after_zeros :
  SameRate (after {} [(1, 0.5), (5, 0), (7, -0)]) (after {} [(1, 0.5)])
    ∧ (after {} [(1, 0.5), (5, 0), (7, -0)]).state.errorRate = 2
  := by
  obtain ⟨hfollows, -, -⟩ := follows_after {} [(1, 0.5), (5, 0), (7, -0)]
  obtain ⟨-, -, hinsert⟩ := follows_after {} [(1, 0.5)]
  constructor
  · apply hinsert [(1, 0.5)] [(5, 0), (7, -0)] [] rfl
    decide +kernel
  · rw [hfollows.errorRate]
    decide +kernel

end Servo.Regulator
