import Mathlib.Data.List.Sort
import Mathlib.Data.Set.Card
import Servo.Proofs.Bus.Exchange
import Servo.Proofs.Bus.Forwarding

/-!
# Calls of listeners

A message that is published calls listeners, directly or through forwarders: a `Call` says which
forwarders passed the message on and which listener was called in the end.  Every path of forwarders
makes one call (`Bus.IsCall`), and calls end in the order of `Call.Before`, so that all that a call
causes ends before the call and before the next call beside it.  Without cycles, `Bus.relay` makes
exactly these calls in this order (`relay_calls`).
-/

namespace Servo

/-! ### Calls and their order -/

/-- A call of a listener. -/
@[ext]
structure Call where
  /-- The places of the forwarders that pass the message on, the first one first. -/
  path : List Nat
  /-- The place of the listener. -/
  place : Nat
  listener : Listener
  deriving DecidableEq

namespace Call

/-- The places of those whose calls have not ended during a call, the first one first. -/
def stack (c : Call) : List Nat := c.path ++ [c.place]

/-- The call that is caused by one more forwarder. -/
def under (i : Nat) (c : Call) : Call := { c with path := i :: c.path }

/-- A call that is caused by one more forwarder has a place more. -/
@[simp]
theorem stack_under (i : Nat) (c : Call) :
  (c.under i).stack = i :: c.stack
  := rfl

theorem stack_eq_cons (c : Call) :
  ∃ i rest, c.stack = i :: rest
  := by
  obtain ⟨path, place, l⟩ := c
  cases path with
  | nil => exact ⟨place, [], rfl⟩
  | cons i path => exact ⟨i, path ++ [place], rfl⟩

/-- A call ends before another one, given the places that they have. -/
inductive Ends : List Nat → List Nat → Prop where
  /-- What is caused by a call ends before the call. -/
  | caused (i j : Nat) (rest : List Nat) : Ends (i :: j :: rest) [i]
  /-- A call and all that it causes end before the next call beside it. -/
  | earlier {i j : Nat} (h : i < j) (rest rest' : List Nat) : Ends (i :: rest) (j :: rest')
  | within (i : Nat) {rest rest' : List Nat} (h : Ends rest rest') : Ends (i :: rest) (i :: rest')

/-- Of two calls only one ends before the other. -/
theorem Ends.asymm {p q : List Nat} (h : Ends p q) :
  ¬ Ends q p
  := by
  induction h with
  | caused i j rest =>
    intro h
    cases h with
    | earlier hlt => apply Nat.lt_irrefl _ hlt
    | within _ h => cases h
  | earlier hlt rest rest' =>
    intro h
    cases h with
    | caused => apply Nat.lt_irrefl _ hlt
    | earlier hgt => apply Nat.lt_asymm hlt hgt
    | within => apply Nat.lt_irrefl _ hlt
  | within i h ih =>
    intro h'
    cases h' with
    | caused => cases h
    | earlier hlt => apply Nat.lt_irrefl _ hlt
    | within _ h' => apply ih h'

/-- A call ends before another one. -/
def Before (c d : Call) : Prop := Ends c.stack d.stack

instance : Std.Irrefl Before := ⟨fun _ h => h.asymm h⟩

instance : Std.Antisymm Before := ⟨fun _ _ h h' => absurd h' h.asymm⟩

/-- The calls `calls` are those with the property `P`, in the order in which they end. -/
structure Lists (P : Call → Prop) (calls : List Call) : Prop where
  mem : ∀ c, c ∈ calls ↔ P c
  ordered : calls.Pairwise Before

/-- Nothing is listed if there are no calls. -/
theorem Lists.nil {P : Call → Prop} (h : ∀ c, ¬ P c) :
  Lists P []
  := by
  constructor
  case mem =>
    intro c
    exact iff_of_false List.not_mem_nil (h c)
  case ordered => exact .nil

theorem Lists.unique {P : Call → Prop} {calls calls' : List Call} (h : Lists P calls)
    (h' : Lists P calls') :
  calls = calls'
  := by
  apply h.ordered.eq_of_mem_iff h'.ordered
  intro c
  rw [h.mem, h'.mem]

theorem Lists.nodup {P : Call → Prop} {calls : List Call} (h : Lists P calls) :
  calls.Nodup
  := h.ordered.nodup

end Call

namespace Bus

open Call

variable {b : Bus Listener}

/-! ### The calls of a message -/

/-- A message on the topic `t` leads to a call. -/
def IsCall (b : Bus Listener) (t : Topic) (c : Call) : Prop :=
  ∃ s, b.Leads t c.path s ∧ b.subscriptions[c.place]? = some (s, c.listener)

/-- A call of the listener `l` at the place `i`, or a call that is caused by it. -/
inductive Serving (b : Bus Listener) (i : Nat) (l : Listener) : Call → Prop where
  | itself : b.Serving i l ⟨[], i, l⟩
  | caused {u : Topic} {c : Call} (htarget : l.target? = some u) (h : b.IsCall u c) :
    b.Serving i l (c.under i)

/-- The place of a listener comes first in all calls that serving it makes. -/
theorem Serving.stack_eq_cons {i : Nat} {l : Listener} {c : Call} (h : b.Serving i l c) :
  ∃ rest, c.stack = i :: rest
  := by
  cases h with
  | itself => exact ⟨[], rfl⟩
  | caused => exact ⟨_, rfl⟩

/-- The subscribers of a topic with their places. -/
def placed (b : Bus Listener) (t : Topic) : List (Nat × Listener) :=
  (b.subscriptions.zipIdx.filter fun p => p.1.1 = t).map fun p => (p.2, p.1.2)

/-- The subscribers of a topic are those that have places. -/
theorem map_snd_placed (b : Bus Listener) (t : Topic) :
  (b.placed t).map (·.2) = b.subscribers t
  := by
  have hsubscribers : b.subscribers t = (b.subscriptions.filter (·.1 = t)).map (·.2) := by
    rw [subscribers, ← List.filterMap_eq_map, List.filterMap_filter]
    simp
  rw [hsubscribers, ← List.zipIdx_map_fst 0 b.subscriptions, List.filter_map, List.map_map,
    placed, List.map_map]
  rfl

/-- A listener has a place of a topic if its subscription is at that place. -/
theorem mem_placed_iff {t : Topic} {i : Nat} {l : Listener} :
  (i, l) ∈ b.placed t ↔ b.subscriptions[i]? = some (t, l)
  := by
  rw [placed, List.mem_map]
  constructor
  · rintro ⟨⟨⟨t', l'⟩, j⟩, hmem, h⟩
    cases h
    obtain ⟨hmem, ht⟩ := List.mem_filter.1 hmem
    rw [← of_decide_eq_true ht]
    apply List.mk_mem_zipIdx_iff_getElem?.1 hmem
  · intro h
    refine ⟨((t, l), i), List.mem_filter.2 ⟨?_, decide_eq_true rfl⟩, rfl⟩
    apply List.mk_mem_zipIdx_iff_getElem?.2 h

/-- Places are listed in increasing order. -/
theorem pairwise_placed (b : Bus Listener) (t : Topic) :
  (b.placed t).Pairwise fun p q => p.1 < q.1
  := by
  have hplaces : (b.subscriptions.zipIdx.map (·.2)).Pairwise (· < ·) := by
    rw [List.zipIdx_map_snd]
    exact List.pairwise_lt_range'
  apply List.pairwise_map.2
  apply (List.pairwise_map.1 hplaces).filter

/-- The calls of a message are those that serving the subscribers of its topic makes. -/
theorem isCall_iff {t : Topic} {c : Call} :
  b.IsCall t c ↔ ∃ p ∈ b.placed t, b.Serving p.1 p.2 c
  := by
  constructor
  · rintro ⟨s, hleads, hplace⟩
    obtain ⟨path, place, l⟩ := c
    cases hleads with
    | stay => exact ⟨(place, l), mem_placed_iff.2 hplace, .itself⟩
    | @pass _ u _ i l' path hplace' htarget hleads =>
      refine ⟨(i, l'), mem_placed_iff.2 hplace', ?_⟩
      exact .caused (c := ⟨path, place, l⟩) htarget ⟨s, hleads, hplace⟩
  · rintro ⟨⟨i, l⟩, hmem, h⟩
    have hplace := mem_placed_iff.1 hmem
    cases h with
    | itself => exact ⟨t, .stay t, hplace⟩
    | caused htarget h =>
      obtain ⟨s, hleads, hplace'⟩ := h
      exact ⟨s, .pass hplace htarget hleads, hplace'⟩

/-! ### Serving listeners -/

/-- What a listener notes: a forwarder notes how many subscribers its target has. -/
def note (b : Bus Listener) (value : Float) : Listener → Receipt
  | .recorder id => .received id value
  | .forwarder id target =>
    .forwarded id ((Topic.ofString target).toOption.map fun u => (b.subscribers u).length)

/-- What is noted in calls, in the order in which they end. -/
def notes (b : Bus Listener) (value : Float) (calls : List Call) : List Receipt :=
  calls.map fun c => b.note value c.listener

/-- What is noted of what a listener publishes. -/
def causedBy (publish : Topic → Option (List Receipt)) (l : Listener) : Option (List Receipt) :=
  match l.target? with
  | some u => publish u
  | none => some []

/-- To serve a listener, all that it causes is done first, then it notes the message, and then the
next listeners are served. -/
theorem serve_cons (b : Bus Listener) (value : Float) (publish : Topic → Option (List Receipt))
    (l : Listener) (rest : List Listener) :
  b.serve value publish (l :: rest) = do
    let caused ← causedBy publish l
    let later ← b.serve value publish rest
    return caused ++ b.note value l :: later
  := by
  cases l with
  | recorder id =>
    rw [serve]
    cases b.serve value publish rest <;> rfl
  | forwarder id target =>
    rw [serve, causedBy, Listener.target?, note]
    cases Topic.ofString target with
    | error e => cases b.serve value publish rest <;> rfl
    | ok u => rfl

/-- The calls that serving a listener makes: those that it causes, then itself. -/
theorem lists_serving {i : Nat} {l : Listener} {caused : List Call}
    (h : Lists (fun c => ∃ u, l.target? = some u ∧ b.IsCall u c) caused) :
  Lists (b.Serving i l) (caused.map (.under i) ++ [⟨[], i, l⟩])
  := by
  constructor
  case mem =>
    intro c
    rw [List.mem_append, List.mem_singleton, List.mem_map]
    constructor
    · rintro (⟨c', hc', rfl⟩ | rfl)
      · obtain ⟨u, htarget, hcall⟩ := (h.mem c').1 hc'
        exact .caused htarget hcall
      · exact .itself
    · intro hc
      cases hc with
      | itself => exact .inr rfl
      | caused htarget hcall => exact .inl ⟨_, (h.mem _).2 ⟨_, htarget, hcall⟩, rfl⟩
  case ordered =>
    apply List.pairwise_append.2
    refine ⟨?_, List.pairwise_singleton _ _, ?_⟩
    · apply List.pairwise_map.2
      apply h.ordered.imp
      intro c d hcd
      exact .within i hcd
    · intro c hc d hd
      obtain ⟨c', -, rfl⟩ := List.mem_map.1 hc
      obtain rfl := List.mem_singleton.1 hd
      obtain ⟨j, rest, hstack⟩ := c'.stack_eq_cons
      rw [Before, stack_under, hstack]
      exact .caused i j rest

/-- The calls that serving a listener makes end before those of listeners at later places. -/
theorem lists_append {i : Nat} {l : Listener} {later : List (Nat × Listener)}
    {first rest : List Call} (hfirst : Lists (b.Serving i l) first)
    (hrest : Lists (fun c => ∃ p ∈ later, b.Serving p.1 p.2 c) rest)
    (hlater : ∀ p ∈ later, i < p.1) :
  Lists (fun c => ∃ p ∈ (i, l) :: later, b.Serving p.1 p.2 c) (first ++ rest)
  := by
  constructor
  case mem =>
    intro c
    rw [List.mem_append, hfirst.mem, hrest.mem, List.exists_mem_cons_iff]
  case ordered =>
    apply List.pairwise_append.2 ⟨hfirst.ordered, hrest.ordered, _⟩
    intro c hc d hd
    obtain ⟨q, hcstack⟩ := ((hfirst.mem c).1 hc).stack_eq_cons
    obtain ⟨p, hp, hserving⟩ := (hrest.mem d).1 hd
    obtain ⟨q', hdstack⟩ := hserving.stack_eq_cons
    rw [Before, hcstack, hdstack]
    exact .earlier (hlater p hp) q q'

/-- What a listener publishes makes calls if all its publications come to an end. -/
theorem causedBy_calls {value : Float} {publish : Topic → Option (List Receipt)} {l : Listener}
    (hpublish : ∀ u, l.target? = some u →
      ∃ calls, publish u = some (b.notes value calls) ∧ Lists (b.IsCall u) calls) :
  ∃ caused, causedBy publish l = some (b.notes value caused)
    ∧ Lists (fun c => ∃ u, l.target? = some u ∧ b.IsCall u c) caused
  := by
  rw [causedBy]
  cases htarget : l.target? with
  | none =>
    refine ⟨[], rfl, .nil ?_⟩
    rintro c ⟨u, hu, -⟩
    cases hu
  | some u =>
    obtain ⟨calls, hcalls, hlists⟩ := hpublish u htarget
    refine ⟨calls, hcalls, ?_⟩
    constructor
    case mem =>
      intro c
      rw [hlists.mem]
      constructor
      · exact fun h => ⟨u, rfl, h⟩
      · rintro ⟨_, ⟨⟩, h⟩
        apply h
    case ordered => apply hlists.ordered

/-- Listeners at increasing places are served if all their publications come to an end. -/
theorem serve_calls {value : Float} {publish : Topic → Option (List Receipt)}
    {listeners : List (Nat × Listener)}
    (hpublish : ∀ p ∈ listeners, ∀ u, p.2.target? = some u →
      ∃ calls, publish u = some (b.notes value calls) ∧ Lists (b.IsCall u) calls)
    (hplaces : listeners.Pairwise fun p q => p.1 < q.1) :
  ∃ calls, b.serve value publish (listeners.map (·.2)) = some (b.notes value calls)
    ∧ Lists (fun c => ∃ p ∈ listeners, b.Serving p.1 p.2 c) calls
  := by
  induction listeners with
  | nil =>
    refine ⟨[], rfl, .nil ?_⟩
    rintro c ⟨p, hp, -⟩
    cases hp
  | cons p later ih =>
    obtain ⟨i, l⟩ := p
    obtain ⟨hfirst, hlater⟩ := List.pairwise_cons.1 hplaces
    obtain ⟨caused, hcaused, hcausedCalls⟩ :=
      causedBy_calls (hpublish (i, l) List.mem_cons_self)
    obtain ⟨rest, hrest, hrestCalls⟩ :=
      ih (fun p hp => hpublish p (List.mem_cons_of_mem _ hp)) hlater
    refine ⟨_, ?_, lists_append (lists_serving hcausedCalls) hrestCalls hfirst⟩
    rw [List.map_cons, serve_cons, hcaused, hrest]
    simp [notes, under, Function.comp_def]

/-- Relaying a message makes the calls to which it leads, if no path is too long. -/
theorem relay_calls {value : Float} {depth : Nat} {t : Topic}
    (hdepth : ∀ path s, b.Leads t path s → path.length < depth) :
  ∃ calls, b.relay value depth t = some (b.notes value calls) ∧ Lists (b.IsCall t) calls
  := by
  induction depth generalizing t with
  | zero => exact absurd (hdepth [] t (.stay t)) (Nat.not_lt_zero _)
  | succ depth ih =>
    -- A path from the target of a subscriber is shorter by one than the path through it.
    have hpublish : ∀ p ∈ b.placed t, ∀ u, p.2.target? = some u →
        ∃ calls, b.relay value depth u = some (b.notes value calls)
          ∧ Lists (b.IsCall u) calls := by
      rintro ⟨i, l⟩ hmem u htarget
      apply ih
      intro path s hleads
      apply Nat.lt_of_succ_lt_succ
      apply hdepth (i :: path) s (.pass (mem_placed_iff.1 hmem) htarget hleads)
    obtain ⟨calls, hcalls, hlists⟩ := serve_calls hpublish (b.pairwise_placed t)
    rw [map_snd_placed] at hcalls
    refine ⟨calls, hcalls, ?_⟩
    constructor
    case mem =>
      intro c
      rw [hlists.mem, isCall_iff]
    case ordered => apply hlists.ordered

end Bus

end Servo
