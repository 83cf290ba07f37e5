import Servo.Proofs.Binary64.Order

/-!
# The agenda

`agenda` is a stable sort: `agenda_cons` says where one more command comes, and so the last
of some commands in the agenda is the latest of them in the schedule (`latest?`).  If all
times are numbers, then the commands that are due are those at the head of the agenda
(`takeWhile_agenda`).
-/

namespace Servo.Simulation

/-! ### The latest of a list -/

/-- The element of the highest rank; of several the last one. -/
def latest? {α : Type} (rank : α → Int) : List α → Option α
  | [] => none
  | a :: rest =>
    match latest? rank rest with
    | none => some a
    | some b => if rank b < rank a then some a else some b

/-- The ranks may be taken before or after a change of the elements. -/
theorem latest?_map {α β : Type} (rank : β → Int) (f : α → β) (l : List α) :
  latest? rank (l.map f) = (latest? (rank ∘ f) l).map f
  := by
  induction l with
  | nil => rfl
  | cons a rest ih =>
    rw [List.map_cons, latest?, latest?, ih]
    cases latest? (rank ∘ f) rest with
    | none => rfl
    | some b =>
      simp only [Option.map_some, Function.comp_apply]
      split <;> rfl

/-! ### The order of the agenda -/

theorem rank_trans (a b c : Scheduled) :
    decide (a.moment.rank ≤ b.moment.rank) → decide (b.moment.rank ≤ c.moment.rank) →
  decide (a.moment.rank ≤ c.moment.rank)
  := by
  simp only [decide_eq_true_iff]
  apply Int.le_trans

theorem rank_total (a b : Scheduled) :
  decide (a.moment.rank ≤ b.moment.rank) || decide (b.moment.rank ≤ a.moment.rank)
  := by
  rw [Bool.or_eq_true, decide_eq_true_iff, decide_eq_true_iff]
  apply Int.le_total _ _

theorem pairwise_agenda (commands : List Scheduled) :
  (agenda commands).Pairwise (·.moment.rank ≤ ·.moment.rank)
  := by
  have h := List.pairwise_mergeSort rank_trans rank_total commands
  apply h.imp
  intro a b
  apply of_decide_eq_true

theorem mem_agenda {commands : List Scheduled} {c : Scheduled} :
  c ∈ agenda commands ↔ c ∈ commands
  := List.mem_mergeSort

/-- One more command at the head of the schedule comes before all others but those of an
earlier moment. -/
theorem agenda_cons (c : Scheduled) (commands : List Scheduled) :
  ∃ before after, agenda (c :: commands) = before ++ c :: after
    ∧ agenda commands = before ++ after
    ∧ ∀ b ∈ before, b.moment.rank < c.moment.rank
  := by
  obtain ⟨before, after, hcons, hsplit, hbefore⟩ :=
    List.mergeSort_cons rank_trans rank_total c commands
  use before, after, hcons, hsplit
  intro b hb
  simpa using hbefore b hb

/-- The last of some commands in the agenda is the latest of them. -/
theorem getLast?_filter_agenda (p : Scheduled → Bool) (commands : List Scheduled) :
  ((agenda commands).filter p).getLast?
    = latest? (fun c => c.moment.rank) (commands.filter p)
  := by
  induction commands with
  | nil =>
    rw [agenda, List.mergeSort_nil]
    rfl
  | cons c rest ih =>
    obtain ⟨before, after, hcons, hsplit, hbefore⟩ := agenda_cons c rest
    have hsorted := pairwise_agenda (c :: rest)
    rw [hsplit] at ih
    rw [hcons] at hsorted ⊢
    cases hp : p c with
    | false =>
      rw [List.filter_cons_of_neg (by simp [hp]), ← ih, List.filter_append, List.filter_append,
        List.filter_cons_of_neg (by simp [hp])]
    | true =>
      rw [List.filter_cons_of_pos hp, latest?, ← ih, List.filter_append, List.filter_append,
        List.filter_cons_of_pos hp, List.getLast?_append, List.getLast?_append,
        List.getLast?_cons]
      cases hafter : (after.filter p).getLast? with
      | some d =>
        have hd := (List.mem_filter.1 (List.mem_of_getLast? hafter)).1
        have hle := List.rel_of_pairwise_cons (List.pairwise_append.1 hsorted).2.1 hd
        simp only [Option.some_or, Option.getD_some, if_neg (Int.not_lt.2 hle)]
      | none =>
        cases hlast : (before.filter p).getLast? with
        | none => simp only [Option.none_or, Option.getD_none, Option.some_or]
        | some d =>
          have hd := (List.mem_filter.1 (List.mem_of_getLast? hlast)).1
          simp only [Option.none_or, Option.getD_none, Option.some_or, if_pos (hbefore d hd)]

/-! ### The commands that are due -/

/-- The commands of a schedule have moments that are numbers. -/
def Numeric (commands : List Scheduled) : Prop :=
  ∀ c ∈ commands, ∃ t : Float, c.moment = .time t ∧ t.isNaN = false

/-- Whether the moment of a command has come. -/
def isDue (now : Float) (c : Scheduled) : Bool := c.moment.hasCome now

theorem isDue_mono {s t : Float} (h : s ≤ t) {c : Scheduled} (hc : isDue s c = true) :
  isDue t c = true
  := decide_eq_true (Binary64.le_trans (of_decide_eq_true hc) h)

/-- The part of a list before the first element without a property has all elements with
the property, if no such element comes later. -/
theorem takeWhile_eq_filter {α : Type} {p : α → Bool} {l : List α}
    (h : l.Pairwise fun a b => p b = true → p a = true) :
  l.takeWhile p = l.filter p
  := by
  induction l with
  | nil => rfl
  | cons a rest ih =>
    obtain ⟨ha, hrest⟩ := List.pairwise_cons.1 h
    cases hp : p a with
    | true => rw [List.takeWhile_cons_of_pos hp, List.filter_cons_of_pos hp, ih hrest]
    | false =>
      rw [List.takeWhile_cons_of_neg (by simp [hp]), List.filter_cons_of_neg (by simp [hp]),
        eq_comm, List.filter_eq_nil_iff]
      intro b hb hpb
      rw [ha b hb hpb] at hp
      cases hp

/-- What comes from the first element without a property on are the elements without it, if no
such element comes before one that has it. -/
theorem dropWhile_eq_filter {α : Type} {p : α → Bool} {l : List α}
    (h : l.Pairwise fun a b => p b = true → p a = true) :
  l.dropWhile p = l.filter (!p ·)
  := by
  induction l with
  | nil => rfl
  | cons a rest ih =>
    obtain ⟨ha, hrest⟩ := List.pairwise_cons.1 h
    cases hp : p a with
    | true =>
      rw [List.dropWhile_cons_of_pos hp, List.filter_cons_of_neg (by simp [hp]), ih hrest]
    | false =>
      rw [List.dropWhile_cons_of_neg (by simp [hp]), eq_comm, List.filter_eq_self]
      intro b hb
      rcases List.mem_cons.1 hb with rfl | hb
      · rw [hp]
        rfl
      · rw [Bool.not_eq_true']
        apply Bool.eq_false_iff.2
        intro hpb
        rw [ha b hb hpb] at hp
        cases hp

/-- Before a command that is due all commands of the agenda are due. -/
theorem pairwise_isDue_agenda {commands : List Scheduled} (h : Numeric commands) (now : Float) :
  (agenda commands).Pairwise fun a b => isDue now b = true → isDue now a = true
  := by
  apply (pairwise_agenda commands).imp_of_mem
  intro a b ha hb hrank hdue
  obtain ⟨s, hs, hnumber⟩ := h a (mem_agenda.1 ha)
  obtain ⟨t, ht, -⟩ := h b (mem_agenda.1 hb)
  rw [hs, ht] at hrank
  rw [isDue, ht] at hdue
  rw [isDue, hs]
  apply decide_eq_true (Binary64.le_of_rank_le hrank hnumber (of_decide_eq_true hdue))

/-- The commands that are due are at the head of the agenda. -/
theorem takeWhile_agenda {commands : List Scheduled} (h : Numeric commands) (now : Float) :
  (agenda commands).takeWhile (isDue now) = (agenda commands).filter (isDue now)
  := takeWhile_eq_filter (pairwise_isDue_agenda h now)

end Servo.Simulation
