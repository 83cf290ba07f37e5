import Servo.Clock
import Mathlib.Algebra.BigOperators.Group.List.Basic
import Mathlib.Algebra.Order.Ring.Rat
import Mathlib.Data.List.Induction

/-!
# Requests to a clock

A clock is asked for steps, for jumps and to stand still.  `isPaused`, `pending?` and `counted`
read off a list of requests what the clock has come to, and `Follows.tells` says what the next
step does after them.  If the times are rational numbers, then the lengths of all ticks add up to
the time (`time_serveAll`), and the clock goes back exactly in those of negative length
(`isRewind_step`).
-/

namespace Servo.Clock

variable {K : Type}

/-- What may be asked of a clock. -/
inductive Request (K : Type) where
  | step (dt : K)
  | seek (time : K)
  | setPaused (paused : Bool)

/-! ### What a list of requests says -/

namespace Request

/-- Whether a step is asked for. -/
def isStep : Request K → Bool
  | .step _ => true
  | .seek _ => false
  | .setPaused _ => false

/-- The time of the jump that is asked for. -/
def target? : Request K → Option K
  | .step _ => none
  | .seek time => some time
  | .setPaused _ => none

/-- Whether the clock is to stand still, if the request is about that. -/
def paused? : Request K → Option Bool
  | .step _ => none
  | .seek _ => none
  | .setPaused paused => some paused

end Request

/-- Whether a clock stands still after some requests, which the last one about that says. -/
def isPaused (requests : List (Request K)) : Bool :=
  (requests.filterMap (·.paused?)).getLast?.getD false

/-- The jump that waits for the next step after some requests, which is the one that was asked for
last, if it was since the last step. -/
def pending? (requests : List (Request K)) : Option K :=
  (requests.reverse.takeWhile (!·.isStep)).findSome? (·.target?)

/-- Whether the request at a place is a step of a clock that does not stand still. -/
def counts (requests : List (Request K)) (i : Nat) : Bool :=
  requests[i]?.any (·.isStep) && !isPaused (requests.take i)

/-- The number of steps among some requests before which the clock does not stand still. -/
def counted (requests : List (Request K)) : Nat :=
  (List.range requests.length).countP (counts requests)

/-- One more request about a pause counts instead of those before. -/
theorem isPaused_concat (requests : List (Request K)) (r : Request K) :
  isPaused (requests ++ [r]) = r.paused?.getD (isPaused requests)
  := by
  rw [isPaused, isPaused, List.filterMap_append]
  cases r <;> simp [Request.paused?]

/-- One more request for a jump counts instead of those before, and after a step there is none. -/
theorem pending?_concat (requests : List (Request K)) (r : Request K) :
  pending? (requests ++ [r])
    = if r.isStep then none else r.target?.or (pending? requests)
  := by
  rw [pending?, pending?, List.reverse_append]
  cases r <;> simp [Request.isStep, Request.target?]

/-- One more request is counted if it is a step and the clock does not stand still before it. -/
theorem counted_concat (requests : List (Request K)) (r : Request K) :
  counted (requests ++ [r])
    = if r.isStep && !isPaused requests then counted requests + 1 else counted requests
  := by
  have hbefore : ∀ i ∈ List.range requests.length,
      counts (requests ++ [r]) i = true ↔ counts requests i = true := by
    intro i hi
    have hi := List.mem_range.1 hi
    rw [counts, counts, List.getElem?_append_left hi,
      List.take_append_of_le_length (Nat.le_of_lt hi)]
  have hlast : counts (requests ++ [r]) requests.length
      = (r.isStep && !isPaused requests) := by
    simp [counts]
  rw [counted, List.length_append, List.length_singleton, List.range_succ, List.countP_append,
    List.countP_congr hbefore, List.countP_singleton, hlast, counted]
  split <;> rfl

/-- A clock is at what some requests say. -/
structure Follows (c : Clock K) (requests : List (Request K)) : Prop where
  paused : c.paused = isPaused requests
  target : c.target = pending? requests
  iterations : c.iterations = counted requests

/-! ### What a clock does -/

section

variable [OfNat K 0] [Add K] [Sub K]

/-- The clock after a request. -/
def serve (c : Clock K) : Request K → Clock K
  | .step dt => (c.step dt).2
  | .seek time => c.seek time
  | .setPaused paused => { c with paused }

/-- The clock after some requests. -/
def serveAll (c : Clock K) (requests : List (Request K)) : Clock K := requests.foldl serve c

/-- The ticks that a clock makes in serving some requests. -/
def ticks (c : Clock K) : List (Request K) → List (Tick K)
  | [] => []
  | .step dt :: rest => (c.step dt).1 :: (c.step dt).2.ticks rest
  | .seek time :: rest => (c.seek time).ticks rest
  | .setPaused paused :: rest => ticks { c with paused } rest

/-- A clock follows one more request. -/
theorem Follows.serve {c : Clock K} {requests : List (Request K)} (h : c.Follows requests)
    (r : Request K) :
  (c.serve r).Follows (requests ++ [r])
  := by
  constructor
  case paused =>
    rw [isPaused_concat, ← h.paused]
    cases r <;> rfl
  case target =>
    rw [pending?_concat, ← h.target]
    cases r <;> rfl
  case iterations =>
    rw [counted_concat, ← h.paused, ← h.iterations]
    cases r with
    | step dt =>
      cases hpaused : c.paused <;> simp [Clock.serve, Clock.step, Request.isStep, hpaused]
    | seek time => rfl
    | setPaused paused => rfl

/-- A clock follows the requests that it has served since the start. -/
theorem follows_serveAll (requests : List (Request K)) :
  (serveAll start requests).Follows requests
  := by
  induction requests using List.reverseRecOn with
  | nil => exact ⟨rfl, rfl, rfl⟩
  | append_singleton requests r ih =>
    rw [serveAll, List.foldl_append]
    apply ih.serve

/-- What a tick tells if a step of the length `dt` is asked for at the time `now`, after some other
requests. -/
structure Tells (requests : List (Request K)) (now dt : K) (tick : Tick K) : Prop where
  jump : ∀ time, pending? requests = some time → tick.time = time ∧ tick.dt = time - now
  rest : pending? requests = none → isPaused requests = true → tick.time = now ∧ tick.dt = 0
  advance : pending? requests = none → isPaused requests = false →
    tick.time = now + dt ∧ tick.dt = dt
  iterations : tick.iterations = counted (requests ++ [.step dt])
  paused : tick.paused = isPaused requests

/-- The next tick of a clock tells what the requests say that it has followed, and it carries the
time and the number of steps to which the clock comes. -/
theorem Follows.tells {c : Clock K} {requests : List (Request K)} (h : c.Follows requests)
    (dt : K) :
  Tells requests c.time dt (c.step dt).1 ∧ (c.step dt).2.time = (c.step dt).1.time
    ∧ (c.step dt).2.iterations = (c.step dt).1.iterations
  := by
  refine ⟨?_, rfl, rfl⟩
  constructor
  case jump =>
    intro time htime
    simp [step, Clock.advance, h.target, htime]
  case rest =>
    intro hnone hpaused
    simp [step, Clock.advance, h.target, hnone, h.paused, hpaused]
  case advance =>
    intro hnone hpaused
    simp [step, Clock.advance, h.target, hnone, h.paused, hpaused]
  case iterations => apply (h.serve (.step dt)).iterations
  case paused => apply h.paused

/-- The number of steps as a counter of 64 bits has it. -/
def counter (c : Clock K) : UInt64 := .ofNat c.iterations

/-- The counter goes on by one in each step that is counted; after the last word it begins again. -/
theorem counter_step (c : Clock K) (dt : K) :
  (c.step dt).2.counter = if c.paused then c.counter else c.counter + 1
  := by
  cases hpaused : c.paused <;> simp [counter, step, hpaused, UInt64.ofNat_add]

end

/-- The counter is exact unless there were as many requests as there are words. -/
theorem Follows.toNat_counter {c : Clock K} {requests : List (Request K)} (h : c.Follows requests)
    (hlength : requests.length < UInt64.size) :
  c.counter.toNat = c.iterations
  := by
  have hcounted : counted requests ≤ requests.length := by
    rw [counted]
    apply List.countP_le_length.trans
    rw [List.length_range]
  apply UInt64.toNat_ofNat_of_lt'
  rw [h.iterations]
  apply Nat.lt_of_le_of_lt hcounted hlength

/-- A clock that stands still makes the jump that was asked for last, and goes on standing. -/
example :
  ticks (start : Clock Int) [.step 2, .setPaused true, .seek 9, .seek 1, .step 2, .step 2]
    = [⟨2, 2, 1, false⟩, ⟨1, -1, 1, true⟩, ⟨1, 0, 1, true⟩]
  := by decide

/-! ### Exact times -/

/-- In exact arithmetic a step changes the time by the length of its tick. -/
theorem time_step (c : Clock ℚ) (dt : ℚ) :
  (c.step dt).1.time = c.time + (c.step dt).1.dt
  := by
  show (c.advance dt).2 = c.time + (c.advance dt).1
  rw [Clock.advance]
  split
  next time _ => exact (add_sub_cancel c.time time).symm
  next =>
    split
    next => exact (add_zero c.time).symm
    next => rfl

/-- In exact arithmetic the time changes by the lengths of all ticks. -/
theorem time_serveAll (c : Clock ℚ) (requests : List (Request ℚ)) :
  (c.serveAll requests).time = c.time + ((c.ticks requests).map (·.dt)).sum
  := by
  induction requests generalizing c with
  | nil => exact (add_zero c.time).symm
  | cons r rest ih =>
    rw [serveAll, List.foldl_cons, ← serveAll, ih]
    cases r with
    | step dt =>
      rw [ticks, List.map_cons, List.sum_cons, ← add_assoc, ← time_step]
      rfl
    | seek time => rfl
    | setPaused paused => rfl

/-- In exact arithmetic a tick is a rewind exactly if it leads to an earlier time. -/
theorem isRewind_step (c : Clock ℚ) (dt : ℚ) :
  (c.step dt).1.isRewind = true ↔ (c.step dt).1.time < c.time
  := by
  rw [Tick.isRewind, decide_eq_true_iff, time_step]
  exact add_lt_iff_neg_left.symm

end Servo.Clock
