import Mathlib.Data.List.Perm.Subperm
import Mathlib.Logic.Relation
import Mathlib.Tactic.Use
import Servo.Bus.Relay

/-!
# Forwarding

A forwarder passes what it hears on to its target, so a bus makes a graph of its topics
(`Bus.Forwards`).  A path in this graph is a list of places, those of the forwarders that pass a
message on one after the other (`Bus.Leads`).  If the graph has no cycle, no forwarder is twice on a
path, so that no path is longer than the list of subscriptions (`Leads.length_le`).
-/

namespace Servo

/-- The topic on which a listener publishes what it hears; a forwarder whose target is invalid
publishes nothing. -/
def Listener.target? : Listener → Option Topic
  | .recorder _ => none
  | .forwarder _ target => (Topic.ofString target).toOption

namespace Bus

/-- A forwarder passes messages on from the topic `t` to the topic `u`. -/
def Forwards (b : Bus Listener) (t u : Topic) : Prop :=
  ∃ l, (t, l) ∈ b.subscriptions ∧ l.target? = some u

/-- No message is forwarded to the topic from which it came. -/
def Acyclic (b : Bus Listener) : Prop := ∀ t, ¬ Relation.TransGen b.Forwards t t

/-- The forwarders at some places pass a message on from the first topic to the second one, one
after the other. -/
inductive Leads (b : Bus Listener) : Topic → List Nat → Topic → Prop where
  | stay (t : Topic) : b.Leads t [] t
  | pass {t u s : Topic} {i : Nat} {l : Listener} {path : List Nat}
    (hplace : b.subscriptions[i]? = some (t, l)) (htarget : l.target? = some u)
    (h : b.Leads u path s) : b.Leads t (i :: path) s

/-- Topics that are numbered so that messages are forwarded to higher numbers only are without
cycles. -/
theorem acyclic_of_rank {b : Bus Listener} (rank : Topic → Nat)
    (hrank : ∀ t u, b.Forwards t u → rank t < rank u) :
  b.Acyclic
  := by
  have hgrows : ∀ {t u}, Relation.TransGen b.Forwards t u → rank t < rank u := by
    intro t u h
    induction h with
    | single h => apply hrank _ _ h
    | tail _ h ih => apply Nat.lt_trans ih (hrank _ _ h)
  intro t h
  apply Nat.lt_irrefl _ (hgrows h)

theorem forwards_of_place {b : Bus Listener} {t u : Topic} {i : Nat} {l : Listener}
    (hplace : b.subscriptions[i]? = some (t, l)) (htarget : l.target? = some u) :
  b.Forwards t u
  := ⟨l, List.mem_of_getElem? hplace, htarget⟩

namespace Leads

variable {b : Bus Listener} {t s : Topic} {path : List Nat}

/-- A path leads to one topic. -/
theorem unique {s' : Topic} (h : b.Leads t path s) (h' : b.Leads t path s') :
  s = s'
  := by
  induction h with
  | stay t =>
    cases h'
    rfl
  | pass hplace htarget _ ih =>
    cases h' with
    | pass hplace' htarget' h' =>
      cases hplace.symm.trans hplace'
      cases htarget.symm.trans htarget'
      apply ih h'

theorem snoc {u : Topic} {i : Nat} {l : Listener} (h : b.Leads t path s)
    (hplace : b.subscriptions[i]? = some (s, l)) (htarget : l.target? = some u) :
  b.Leads t (path ++ [i]) u
  := by
  induction h with
  | stay t => exact .pass hplace htarget (.stay u)
  | pass hplace' htarget' _ ih => exact .pass hplace' htarget' (ih hplace)

/-- The topic of a forwarder on a path is reached from where the path begins. -/
theorem reaches_of_mem (h : b.Leads t path s) {i : Nat} (hi : i ∈ path) :
  ∃ t' l, b.subscriptions[i]? = some (t', l) ∧ Relation.ReflTransGen b.Forwards t t'
  := by
  induction h with
  | stay t => cases hi
  | @pass t u s j l path hplace htarget _ ih =>
    rcases List.mem_cons.1 hi with rfl | hi
    · use t, l, hplace
    · obtain ⟨t', l', hplace', hreach⟩ := ih hi
      use t', l', hplace', .head (forwards_of_place hplace htarget) hreach

/-- Without cycles no forwarder is twice on a path. -/
theorem nodup (hb : b.Acyclic) (h : b.Leads t path s) :
  path.Nodup
  := by
  induction h with
  | stay t => apply List.nodup_nil
  | pass hplace htarget h ih =>
    apply List.nodup_cons.2 ⟨_, ih⟩
    intro hi
    -- If the forwarder came again, its topic would lead back to itself.
    obtain ⟨t', l', hplace', hreach⟩ := h.reaches_of_mem hi
    cases hplace.symm.trans hplace'
    apply hb _ (.head' (forwards_of_place hplace htarget) hreach)

/-- Without cycles no path is longer than the list of subscriptions. -/
theorem length_le (hb : b.Acyclic) (h : b.Leads t path s) :
  path.length ≤ b.subscriptions.length
  := by
  have hsubset : path ⊆ List.range b.subscriptions.length := by
    intro i hi
    obtain ⟨t', l, hplace, -⟩ := h.reaches_of_mem hi
    obtain ⟨hlt, -⟩ := List.getElem?_eq_some_iff.1 hplace
    apply List.mem_range.2 hlt
  rw [← List.length_range (n := b.subscriptions.length)]
  apply ((h.nodup hb).subperm hsubset).length_le

end Leads

end Bus

end Servo
