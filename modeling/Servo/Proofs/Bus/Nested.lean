import Servo.Proofs.Bus.Calls

/-!
# Nested deliveries

On a bus without forwarding cycles every delivery comes to an end: a listener is called once for
each path of forwarders that leads to its topic, and each publication, also one that a forwarder
makes, counts those who are subscribed to its topic (`Bus.Completes`).
-/

namespace Servo.Bus

open Call

variable {b : Bus Listener} {t : Topic} {calls : List Call}

/-! ### Counting calls -/

/-- Calls of the listener at one place differ by the paths that lead to it. -/
theorem nodup_paths (h : Lists (b.IsCall t) calls) (i : Nat) :
  ((calls.filter (·.place = i)).map (·.path)).Nodup
  := by
  apply List.Nodup.map_on _ (h.nodup.filter _)
  intro c hc d hd hpath
  obtain ⟨hc, hci⟩ := List.mem_filter.1 hc
  obtain ⟨hd, hdi⟩ := List.mem_filter.1 hd
  obtain ⟨s, -, hplace⟩ := (h.mem c).1 hc
  obtain ⟨s', -, hplace'⟩ := (h.mem d).1 hd
  have hci := of_decide_eq_true hci
  have hdi := of_decide_eq_true hdi
  rw [hci] at hplace
  rw [hdi, hplace] at hplace'
  apply Call.ext hpath (hci.trans hdi.symm)
  apply congrArg Prod.snd (Option.some.inj hplace')

/-- A listener is called once for each path that leads to its topic. -/
theorem countP_place (h : Lists (b.IsCall t) calls) {i : Nat} {s : Topic} {l : Listener}
    (hplace : b.subscriptions[i]? = some (s, l)) :
  (calls.countP (·.place = i) : ℕ∞) = {path | b.Leads t path s}.encard
  := by
  have hpaths : {path | b.Leads t path s}
      = (((calls.filter (·.place = i)).map (·.path)).toFinset : Set (List Nat)) := by
    rw [List.coe_toFinset]
    ext path
    rw [Set.mem_ofPred_eq, Set.mem_ofPred_eq, List.mem_map]
    constructor
    · intro hleads
      refine ⟨⟨path, i, l⟩, List.mem_filter.2 ⟨?_, decide_eq_true rfl⟩, rfl⟩
      apply (h.mem _).2 ⟨s, hleads, hplace⟩
    · rintro ⟨c, hc, rfl⟩
      obtain ⟨hc, hi⟩ := List.mem_filter.1 hc
      obtain ⟨s', hleads, hplace'⟩ := (h.mem c).1 hc
      rw [of_decide_eq_true hi, hplace] at hplace'
      cases hplace'
      apply hleads
  rw [hpaths, Set.encard_coe_eq_coe_finsetCard, List.toFinset_card_of_nodup (nodup_paths h i),
    List.length_map, List.countP_eq_length_filter]

/-- The publication to which a path leads calls those who are subscribed to its topic. -/
theorem countP_path (h : Lists (b.IsCall t) calls) {path : List Nat} {s : Topic}
    (hleads : b.Leads t path s) :
  calls.countP (·.path = path) = (b.subscribers s).length
  := by
  have hplaced : ((b.placed s).map fun p => (⟨path, p.1, p.2⟩ : Call)).Nodup := by
    apply List.pairwise_map.2
    apply (b.pairwise_placed s).imp
    intro p q hlt heq
    rw [Call.mk.injEq] at heq
    apply Nat.ne_of_lt hlt heq.2.1
  have hperm : (calls.filter (·.path = path)).Perm
      ((b.placed s).map fun p => ⟨path, p.1, p.2⟩) := by
    apply (List.perm_ext_iff_of_nodup (h.nodup.filter _) hplaced).2
    intro c
    rw [List.mem_filter, h.mem, List.mem_map]
    constructor
    · rintro ⟨⟨s', hleads', hplace⟩, hpath⟩
      rw [of_decide_eq_true hpath] at hleads'
      cases hleads.unique hleads'
      refine ⟨(c.place, c.listener), mem_placed_iff.2 hplace, ?_⟩
      rw [← of_decide_eq_true hpath]
    · rintro ⟨⟨i, l⟩, hmem, rfl⟩
      exact ⟨⟨s, hleads, mem_placed_iff.1 hmem⟩, decide_eq_true rfl⟩
  rw [List.countP_eq_length_filter, hperm.length_eq, ← map_snd_placed, List.length_map,
    List.length_map]

/-! ### Deliveries -/

/-- What becomes of a message on a topic. -/
structure Completes (b : Bus Listener) (t : Topic) (value : Float) (calls : List Call) : Prop where
  /-- The delivery comes to an end, and it does not depend on how deep forwarding may be. -/
  ends : ∀ depth, b.subscriptions.length < depth →
    b.relay value depth t = some (b.notes value calls)
  called : ∀ c, c ∈ calls ↔ b.IsCall t c
  ordered : calls.Pairwise Before
  /-- A listener is called once for each path of forwarders that leads to its topic. -/
  counted : ∀ i s l, b.subscriptions[i]? = some (s, l) →
    (calls.countP (·.place = i) : ℕ∞) = {path | b.Leads t path s}.encard
  /-- The message is heard directly by the subscribers of its topic. -/
  direct : calls.countP (·.path = []) = (b.subscribers t).length
  /-- What a forwarder publishes is heard directly by the subscribers of its target. -/
  nested : ∀ c ∈ calls, ∀ u, c.listener.target? = some u →
    calls.countP (·.path = c.stack) = (b.subscribers u).length

/-- Without cycles a delivery comes to an end. -/
theorem completes_of_acyclic (h : b.Acyclic) (t : Topic) (value : Float) :
  ∃ calls, b.Completes t value calls
  := by
  have hrelay : ∀ depth, b.subscriptions.length < depth →
      ∃ calls, b.relay value depth t = some (b.notes value calls)
        ∧ Lists (b.IsCall t) calls := by
    intro depth hdepth
    apply relay_calls
    intro path s hleads
    apply Nat.lt_of_le_of_lt (hleads.length_le h) hdepth
  obtain ⟨calls, -, hlists⟩ := hrelay _ (Nat.lt_succ_self _)
  use calls
  constructor
  case ends =>
    intro depth hdepth
    obtain ⟨calls', hcalls', hlists'⟩ := hrelay depth hdepth
    rw [hcalls', hlists'.unique hlists]
  case called => apply hlists.mem
  case ordered => apply hlists.ordered
  case counted => exact fun i s l => countP_place hlists
  case direct => apply countP_path hlists (.stay t)
  case nested =>
    intro c hc u htarget
    obtain ⟨s, hleads, hplace⟩ := (hlists.mem c).1 hc
    apply countP_path hlists (hleads.snoc hplace htarget)

/-- On a bus without forwarding cycles every publication comes to an end and leaves the bus as it
is.  It calls each listener once for each path of forwarders that leads to it, all that a call
causes is done before the next one, and each publication counts the subscribers of its topic. -/
theorem publications_complete (h : b.Acyclic) :
  (∀ text e value, Topic.ofString text = .error e →
      b.respond (.publish text value) = b.refuse e)
    ∧ ∀ t value, ∃ calls, b.Completes t value calls
      ∧ (∀ text, Topic.ofString text = .ok t → b.respond (.publish text value)
        = ⟨b, .reached (b.subscribers t).length, some (b.notes value calls)⟩)
      ∧ b.respond (.send ⟨t⟩ value)
        = ⟨b, .reached (b.subscribers t).length, some (b.notes value calls)⟩
  := by
  constructor
  · intro text e value he
    rw [respond, he]
  · intro t value
    obtain ⟨calls, hcalls⟩ := completes_of_acyclic h t value
    have hannounce : b.announce t value
        = ⟨b, .reached (b.subscribers t).length, some (b.notes value calls)⟩ := by
      rw [announce, deliver?, hcalls.ends _ (Nat.lt_succ_self _)]
    refine ⟨calls, hcalls, ?_, ?_⟩
    · intro text ht
      rw [respond, ht]
      apply hannounce
    · apply hannounce

/-- A bus on which two ways lead from the topic `/in` to the topic `/out`. -/
def converging : Bus Listener where
  subscriptions :=
    [(⟨"/in"⟩, .forwarder "left" "/a"), (⟨"/in"⟩, .forwarder "right" "b"),
      (⟨"/a"⟩, .forwarder "down" "/out"), (⟨"/b"⟩, .forwarder "up" "out"),
      (⟨"/out"⟩, .recorder "log")]

/-- A message on the topic `/in` is noted twice on the topic `/out`, once for each way. -/
theorem publications_complete_converging :
  converging.Acyclic
    ∧ ∃ calls, converging.Completes ⟨"/in"⟩ 1 calls
      ∧ converging.respond (.publish "in" 1) = ⟨converging, .reached 2, some
        [.received "log" 1, .forwarded "down" (some 1), .forwarded "left" (some 1),
          .received "log" 1, .forwarded "up" (some 1), .forwarded "right" (some 1)]⟩
  := by
  have hacyclic : converging.Acyclic := by
    let rank (t : Topic) : Nat := if t = ⟨"/in"⟩ then 0 else if t = ⟨"/out"⟩ then 2 else 1
    have hrank : ∀ s ∈ converging.subscriptions, ∀ u ∈ s.2.target?, rank s.1 < rank u := by
      decide +kernel
    apply acyclic_of_rank rank
    rintro t u ⟨l, hmem, htarget⟩
    apply hrank _ hmem u htarget
  obtain ⟨-, hcompletes⟩ := publications_complete hacyclic
  obtain ⟨calls, hcalls, hpublish, -⟩ := hcompletes ⟨"/in"⟩ 1
  refine ⟨hacyclic, calls, hcalls, ?_⟩
  have hname : Topic.ofString "in" = .ok ⟨"/in"⟩ := by decide +kernel
  have hreached : (converging.subscribers ⟨"/in"⟩).length = 2 := by decide +kernel
  rw [hpublish "in" hname, hreached, ← hcalls.ends 6 (by decide)]
  congr 1

end Servo.Bus
