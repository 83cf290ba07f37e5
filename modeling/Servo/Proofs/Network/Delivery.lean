import Servo.Network

/-!
# Deliveries

`Network.deliver` writes a set-point into the inboxes that are subscribed to a topic, and
into no other (`Network.read_deliver`).  An inbox that `Listens` to a text is subscribed to
the topic which the text names, and to nothing if it names none.
-/

namespace Servo

namespace Inboxes

@[simp]
theorem size_write (b : Inboxes) (i : Inbox) (v : Float) :
  (b.write i v).cells.size = b.cells.size
  := Array.size_setIfInBounds

/-- A written set-point is read from its cell, and from no other. -/
theorem read_write {b : Inboxes} {i : Inbox} (h : i.cell < b.cells.size) (j : Inbox)
    (v : Float) :
  (b.write j v).read i = if j = i then v else b.read i
  := by
  have hji : j = i ↔ j.cell = i.cell := by
    cases i
    cases j
    simp
  simp only [read, write, hji, Array.getD_eq_getD_getElem?, Array.getElem?_setIfInBounds]
  split
  next heq => rw [if_pos (heq ▸ h), Option.getD_some]
  next => rfl

theorem read_add (b : Inboxes) (v : Float) :
  (b.add v).2.read (b.add v).1 = v
    ∧ ∀ i : Inbox, i.cell < b.cells.size → (b.add v).2.read i = b.read i
  := by
  constructor
  · simp [add, read]
  · intro i hi
    simp [add, read, Array.getElem?_push, Nat.ne_of_lt hi]

theorem size_foldl_write (l : List Inbox) (b : Inboxes) (v : Float) :
  (l.foldl (·.write · v) b).cells.size = b.cells.size
  := by
  induction l generalizing b with
  | nil => rfl
  | cons j rest ih => rw [List.foldl_cons, ih, size_write]

/-- A set-point that is written into several cells is read from them, and from no other. -/
theorem read_foldl_write {b : Inboxes} {i : Inbox} (h : i.cell < b.cells.size)
    (l : List Inbox) (v : Float) :
  (l.foldl (·.write · v) b).read i = if i ∈ l then v else b.read i
  := by
  induction l generalizing b with
  | nil => rw [List.foldl_nil, if_neg List.not_mem_nil]
  | cons j rest ih =>
    rw [List.foldl_cons, ih (by rw [size_write]; exact h), read_write h]
    by_cases hrest : i ∈ rest
    · rw [if_pos hrest, if_pos (List.mem_cons_of_mem j hrest)]
    · rw [if_neg hrest]
      by_cases hji : j = i
      · rw [if_pos hji, if_pos (List.mem_cons.2 (.inl hji.symm))]
      · have hcons : i ∉ j :: rest := by
          intro hmem
          rcases List.mem_cons.1 hmem with hij | hmem
          · apply hji hij.symm
          · apply hrest hmem
        rw [if_neg hji, if_neg hcons]

end Inboxes

namespace Network

@[simp]
theorem size_deliver (n : Network) (t : Topic) (v : Float) :
  (n.deliver t v).inboxes.cells.size = n.inboxes.cells.size
  := Inboxes.size_foldl_write _ _ _

/-- A delivered set-point is read from the inboxes that are subscribed to its topic, and
from no other. -/
theorem read_deliver {n : Network} {i : Inbox} (h : i.cell < n.inboxes.cells.size) (t : Topic)
    (v : Float) :
  (n.deliver t v).inboxes.read i
    = if i ∈ n.bus.subscribers t then v else n.inboxes.read i
  := Inboxes.read_foldl_write h _ v

/-- The inboxes that hear what is published on the topic that a text names. -/
def audience (n : Network) (text : String) : List Inbox :=
  match Topic.ofString text with
  | .ok t => n.bus.subscribers t
  | .error _ => []

/-- What is published on a valid topic is delivered. -/
theorem publish_of_ok {text : String} {t : Topic} (h : Topic.ofString text = .ok t)
    (n : Network) (v : Float) :
  ∃ p, n.publish text v = .ok p ∧ p.network = n.deliver t v
  := by
  rw [publish, h]
  exact ⟨_, rfl, rfl⟩

/-- An inbox is subscribed to the topic that a text names, and to no other. -/
structure Listens (n : Network) (i : Inbox) (text : String) : Prop where
  known : i.cell < n.inboxes.cells.size
  subscribed : ∀ t, i ∈ n.bus.subscribers t ↔ Topic.ofString text = .ok t

/-- An inbox that listens to a text hears what is published on the topic that the text names. -/
theorem Listens.mem_audience_iff {n : Network} {i : Inbox} {text : String} (h : n.Listens i text)
    (other : String) :
  i ∈ n.audience other ↔ ∃ t, Topic.ofString other = .ok t ∧ Topic.ofString text = .ok t
  := by
  rw [audience]
  cases Topic.ofString other with
  | error e => simp
  | ok t => simp [h.subscribed]

/-- Networks with the same subscriptions and as many inboxes are the same if all inboxes hold
the same. -/
theorem ext_read {n n' : Network} (hbus : n.bus = n'.bus)
    (hsize : n.inboxes.cells.size = n'.inboxes.cells.size)
    (hread : ∀ i : Inbox, i.cell < n.inboxes.cells.size → n.inboxes.read i = n'.inboxes.read i) :
  n = n'
  := by
  obtain ⟨bus, ⟨cells⟩⟩ := n
  obtain ⟨bus', ⟨cells'⟩⟩ := n'
  obtain rfl : bus = bus' := hbus
  have hcells : cells = cells' := by
    apply Array.ext hsize
    intro k hk hk'
    have hcell := hread ⟨k⟩ hk
    simp only [Inboxes.read, Array.getD_eq_getD_getElem?, Array.getElem?_eq_getElem hk,
      Array.getElem?_eq_getElem hk', Option.getD_some] at hcell
    exact hcell
  rw [hcells]

end Network

end Servo
