import Servo.Proofs.Network.Delivery

/-!
# Growth of a network

A network grows when inboxes are added to it and subscribed to topics.  What the older
inboxes hold and what they listen to stays (`Network.Grows`), and an inbox that is added
listens to one text (`Network.listens_subscribe_of_new`).
-/

namespace Servo

/-- A subscriber of a topic has a subscription to it. -/
theorem Bus.mem_subscribers {α : Type} {b : Bus α} {t : Topic} {a : α} :
  a ∈ b.subscribers t ↔ (t, a) ∈ b.subscriptions
  := by
  rw [subscribers, List.mem_filterMap]
  constructor
  · rintro ⟨⟨t', a'⟩, hmem, h⟩
    split at h
    next ht =>
      cases ht
      cases h
      apply hmem
    next => cases h
  · intro h
    exact ⟨(t, a), h, if_pos rfl⟩

/-- One more subscription adds its subscriber to its topic, and changes no other topic. -/
theorem Bus.mem_subscribers_subscribe {α : Type} {b : Bus α} {t t' : Topic} {a a' : α} :
  a' ∈ (b.subscribe t a).subscribers t' ↔ a' ∈ b.subscribers t' ∨ t' = t ∧ a' = a
  := by
  rw [mem_subscribers, mem_subscribers, subscribe, List.mem_append, List.mem_singleton,
    Prod.mk.injEq]

namespace Network

/-- Only inboxes of the network are subscribed. -/
def Closed (n : Network) : Prop :=
  ∀ t i, i ∈ n.bus.subscribers t → i.cell < n.inboxes.cells.size

/-- The inboxes of the network `n` hold in `n'` what they held, and they are subscribed to
the same topics. -/
structure Grows (n n' : Network) : Prop where
  size : n.inboxes.cells.size ≤ n'.inboxes.cells.size
  read : ∀ i : Inbox, i.cell < n.inboxes.cells.size → n'.inboxes.read i = n.inboxes.read i
  subscribed : ∀ i : Inbox, i.cell < n.inboxes.cells.size →
    ∀ t, i ∈ n'.bus.subscribers t ↔ i ∈ n.bus.subscribers t

theorem Grows.refl (n : Network) :
  n.Grows n
  := ⟨Nat.le_refl _, fun _ _ => rfl, fun _ _ _ => Iff.rfl⟩

/-- A network grows bit by bit. -/
theorem Grows.trans {n n' n'' : Network} (h : n.Grows n') (h' : n'.Grows n'') :
  n.Grows n''
  := by
  constructor
  case size => apply Nat.le_trans h.size h'.size
  case read =>
    intro i hi
    rw [h'.read i (Nat.lt_of_lt_of_le hi h.size), h.read i hi]
  case subscribed =>
    intro i hi t
    rw [h'.subscribed i (Nat.lt_of_lt_of_le hi h.size), h.subscribed i hi]

/-- What an inbox listens to stays when the network grows. -/
theorem Listens.grows {n n' : Network} {i : Inbox} {text : String} (h : n.Listens i text)
    (hgrows : n.Grows n') :
  n'.Listens i text
  := by
  constructor
  case known => apply Nat.lt_of_lt_of_le h.known hgrows.size
  case subscribed =>
    intro t
    rw [hgrows.subscribed i h.known, h.subscribed]

/-- A new inbox with a set-point in it. -/
def addInbox (n : Network) (v : Float) : Network := { n with inboxes := (n.inboxes.add v).2 }

theorem size_addInbox (n : Network) (v : Float) :
  (n.addInbox v).inboxes.cells.size = n.inboxes.cells.size + 1
  := Array.size_push _

/-- A network with a new inbox is one that grew. -/
theorem grows_addInbox (n : Network) (v : Float) :
  n.Grows (n.addInbox v)
  := by
  constructor
  case size =>
    rw [size_addInbox]
    apply Nat.le_succ
  case read => apply (n.inboxes.read_add v).2
  case subscribed =>
    intro i hi t
    rfl

theorem Closed.not_mem_subscribers {n : Network} (h : n.Closed) {i : Inbox}
    (hi : n.inboxes.cells.size ≤ i.cell) (t : Topic) :
  i ∉ n.bus.subscribers t
  := by
  intro hmem
  apply Nat.not_lt.2 hi (h t i hmem)

/-- A new inbox that is subscribed to the topic of a text listens to the text; the network
grows by that, and only its inboxes are subscribed. -/
theorem listens_subscribe_of_new {n : Network} (h : n.Closed) (v : Float) {text : String}
    {t : Topic} (ht : Topic.ofString text = .ok t) :
  let i := (n.inboxes.add v).1
  let n' := (n.addInbox v).subscribe t i
  n'.Closed ∧ n.Grows n' ∧ n'.Listens i text ∧ n'.inboxes.read i = v
  := by
  intro i n'
  have hsize : n'.inboxes.cells.size = n.inboxes.cells.size + 1 := size_addInbox n v
  have hmem : ∀ {j t'}, j ∈ n'.bus.subscribers t' ↔ j ∈ n.bus.subscribers t' ∨ t' = t ∧ j = i :=
    Bus.mem_subscribers_subscribe
  refine ⟨?_, ?_, ?_, (n.inboxes.read_add v).1⟩
  · intro t' j hj
    rw [hsize]
    rcases hmem.1 hj with hj | ⟨-, rfl⟩
    · apply Nat.lt_succ_of_lt (h t' j hj)
    · apply Nat.lt_succ_self _
  · constructor
    case size =>
      rw [hsize]
      apply Nat.le_succ
    case read => apply (n.inboxes.read_add v).2
    case subscribed =>
      intro j hj t'
      rw [hmem]
      constructor
      · rintro (hj' | ⟨-, rfl⟩)
        · apply hj'
        · exact absurd hj (Nat.lt_irrefl _)
      · exact .inl
  · constructor
    case known =>
      rw [hsize]
      apply Nat.lt_succ_self _
    case subscribed =>
      intro t'
      rw [hmem, ht, Except.ok.injEq]
      constructor
      · rintro (hi | ⟨rfl, -⟩)
        · exact absurd hi (h.not_mem_subscribers (Nat.le_refl _) t')
        · rfl
      · rintro rfl
        exact .inr ⟨rfl, rfl⟩

/-- A new inbox that is not subscribed listens to a text that names no topic; the network
grows by that, and only its inboxes are subscribed. -/
theorem listens_addInbox_of_new {n : Network} (h : n.Closed) (v : Float) {text : String}
    {e : Topic.Error} (ht : Topic.ofString text = .error e) :
  let i := (n.inboxes.add v).1
  let n' := n.addInbox v
  n'.Closed ∧ n.Grows n' ∧ n'.Listens i text ∧ n'.inboxes.read i = v
  := by
  intro i n'
  have hsize : n'.inboxes.cells.size = n.inboxes.cells.size + 1 := size_addInbox n v
  refine ⟨?_, grows_addInbox n v, ?_, (n.inboxes.read_add v).1⟩
  · intro t j hj
    rw [hsize]
    apply Nat.lt_succ_of_lt (h t j hj)
  · constructor
    case known =>
      rw [hsize]
      apply Nat.lt_succ_self _
    case subscribed =>
      intro t
      rw [ht]
      constructor
      · intro hi
        exact absurd hi (h.not_mem_subscribers (Nat.le_refl _) t)
      · nofun

end Network

end Servo
