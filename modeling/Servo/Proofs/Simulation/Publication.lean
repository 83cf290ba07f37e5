import Servo.Proofs.Network.Delivery
import Servo.Proofs.Simulation.Agenda
import Servo.Simulation.Run

/-!
# Publications

`published` is the network after all of some commands were published.  `publishDue_eq` says
that a run publishes the commands at the head of its agenda that are due, and
`read_published` which set-point an inbox holds afterwards: the value of the last command on
its topic.
-/

namespace Servo.Simulation

/-- The topic of a command. -/
def Scheduled.topic? (c : Scheduled) : Option Topic := (Topic.ofString c.topic).toOption

theorem topic?_eq_some_iff {c : Scheduled} {t : Topic} :
  c.topic? = some t ↔ Topic.ofString c.topic = .ok t
  := by
  rw [Scheduled.topic?]
  cases Topic.ofString c.topic <;> simp [Except.toOption]

/-- The network after a command was published. -/
def afterCommand (n : Network) (c : Scheduled) : Network :=
  match c.topic? with
  | some t => n.deliver t c.value
  | none => n

/-- The network after some commands were published. -/
def published (n : Network) (commands : List Scheduled) : Network :=
  commands.foldl afterCommand n

theorem published_append (n : Network) (before after : List Scheduled) :
  published n (before ++ after) = published (published n before) after
  := List.foldl_append

/-- Every command is on a valid topic. -/
def Addressed (commands : List Scheduled) : Prop :=
  ∀ c ∈ commands, ∃ t, Topic.ofString c.topic = .ok t

/-- The commands at the head that are due are published, and the others are left. -/
theorem publishDue_eq {commands : List Scheduled} (h : Addressed commands) (now : Float)
    (n : Network) :
  (publishDue now n commands).network
      = published n (commands.takeWhile (isDue now))
    ∧ (publishDue now n commands).pending = commands.dropWhile (isDue now)
    ∧ (publishDue now n commands).fault? = none
  := by
  induction commands generalizing n with
  | nil => exact ⟨rfl, rfl, rfl⟩
  | cons c rest ih =>
    rw [publishDue]
    cases hcome : c.moment.hasCome now with
    | false =>
      have hlate : ¬ isDue now c = true := by rw [isDue, hcome]; exact Bool.false_ne_true
      rw [List.takeWhile_cons_of_neg hlate, List.dropWhile_cons_of_neg hlate]
      exact ⟨rfl, rfl, rfl⟩
    | true =>
      obtain ⟨t, ht⟩ := h c List.mem_cons_self
      obtain ⟨p, hp, hnetwork⟩ := Network.publish_of_ok ht n c.value
      have hrest : Addressed rest := fun d hd => h d (List.mem_cons_of_mem c hd)
      have hafter : afterCommand n c = n.deliver t c.value := by
        rw [afterCommand, Scheduled.topic?, ht]
        rfl
      obtain ⟨hn, hpending, hfault⟩ := ih hrest p.network
      have hdue : isDue now c = true := hcome
      rw [List.takeWhile_cons_of_pos hdue, List.dropWhile_cons_of_pos hdue, published,
        List.foldl_cons, hafter, ← hnetwork, if_pos rfl, hp]
      use hn, hpending, hfault

/-! ### What the inboxes hold -/

/-- After a command the inboxes that hear it hold its value, and the others what they held
before. -/
theorem read_afterCommand {n : Network} {i : Inbox} (h : i.cell < n.inboxes.cells.size)
    (c : Scheduled) :
  (afterCommand n c).inboxes.read i
    = if i ∈ n.audience c.topic then c.value else n.inboxes.read i
  := by
  rw [afterCommand, Scheduled.topic?, Network.audience]
  cases Topic.ofString c.topic with
  | error e => simp [Except.toOption]
  | ok t => simp [Except.toOption, Network.read_deliver h]

/-- Commands add no inbox and no subscription. -/
theorem published_frame (n : Network) (commands : List Scheduled) :
  (published n commands).bus = n.bus
    ∧ (published n commands).inboxes.cells.size = n.inboxes.cells.size
  := by
  induction commands generalizing n with
  | nil => exact ⟨rfl, rfl⟩
  | cons c rest ih =>
    obtain ⟨hbus, hsize⟩ := ih (afterCommand n c)
    rw [published, List.foldl_cons, ← published, hbus, hsize, afterCommand]
    split
    · exact ⟨rfl, Network.size_deliver _ _ _⟩
    · exact ⟨rfl, rfl⟩

theorem audience_published (n : Network) (commands : List Scheduled) (text : String) :
  (published n commands).audience text = n.audience text
  := by
  rw [Network.audience, Network.audience, (published_frame n commands).1]

/-- An inbox holds the value of the last command that it heard. -/
theorem read_published_of_known {n : Network} {i : Inbox} (h : i.cell < n.inboxes.cells.size)
    (commands : List Scheduled) :
  (published n commands).inboxes.read i
    = ((commands.filter fun c => i ∈ n.audience c.topic).getLast?.map (·.value)).getD
      (n.inboxes.read i)
  := by
  induction commands generalizing n with
  | nil => rfl
  | cons c rest ih =>
    have hknown : i.cell < (afterCommand n c).inboxes.cells.size :=
      Nat.lt_of_lt_of_eq h (published_frame n [c]).2.symm
    have haudience : ∀ text, (afterCommand n c).audience text = n.audience text :=
      audience_published n [c]
    rw [published, List.foldl_cons, ← published, ih hknown, read_afterCommand h c]
    simp only [haudience]
    by_cases hc : i ∈ n.audience c.topic
    · rw [if_pos hc, List.filter_cons_of_pos (by simp [hc]), List.getLast?_cons]
      cases (rest.filter fun c => i ∈ n.audience c.topic).getLast? <;> rfl
    · rw [if_neg hc, List.filter_cons_of_neg (by simp [hc])]

/-- An inbox that listens to a text holds the value of the last command on the topic that
the text names. -/
theorem read_published {n : Network} {i : Inbox} {text : String} (h : n.Listens i text)
    (commands : List Scheduled) :
  (published n commands).inboxes.read i
    = match Topic.ofString text with
      | .error _ => n.inboxes.read i
      | .ok t =>
        ((commands.filter (·.topic? = some t)).getLast?.map (·.value)).getD
          (n.inboxes.read i)
  := by
  rw [read_published_of_known h.known]
  cases ht : Topic.ofString text with
  | error e => simp [h.mem_audience_iff, ht]
  | ok t =>
    have hhears : ∀ c : Scheduled, i ∈ n.audience c.topic ↔ c.topic? = some t := by
      intro c
      rw [h.mem_audience_iff, topic?_eq_some_iff, ht]
      simp [eq_comm]
    simp only [hhears]

/-- Publishing commands a second time changes nothing. -/
theorem published_published (n : Network) (commands : List Scheduled) :
  published (published n commands) commands = published n commands
  := by
  obtain ⟨hbus, hsize⟩ := published_frame n commands
  obtain ⟨hbus', hsize'⟩ := published_frame (published n commands) commands
  apply Network.ext_read hbus'
  · rw [hsize']
  · intro i hi
    rw [hsize', hsize] at hi
    have hknown : i.cell < (published n commands).inboxes.cells.size := by
      rw [hsize]
      apply hi
    rw [read_published_of_known hknown, read_published_of_known hi]
    simp only [audience_published]
    cases (commands.filter fun c => i ∈ n.audience c.topic).getLast? <;> rfl

end Servo.Simulation
