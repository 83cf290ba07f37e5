import Mathlib.Data.List.Basic
import Servo.Proofs.Store.Edit

/-!
# Entities at the limit

An entity is kept as a word of 32 bits that is not zero, and an allocator as a counter of
32 bits: these are `Code` and `Counter`, which do all their arithmetic on words.  They tell the
same as `Entity` and `Entity.Allocator` for every word (`entity_ofIndex?`, `allocator_allocate`),
so the counter issues the indices in order up to the last one and never wraps
(`issues_in_order`).
-/

namespace Servo.Entity

/-! ### Codes -/

/-- There is an index for each word of 32 bits but one. -/
theorem capacity_eq :
  capacity = UInt32.size - 1
  := rfl

theorem lt_capacity_iff {n : Nat} :
  n < capacity ↔ n + 1 < UInt32.size
  := by
  rw [capacity_eq]
  omega

/-- A word that is kept for an entity. -/
structure Code where
  word : UInt32
  ne_zero : word ≠ 0
  deriving DecidableEq

namespace Code

/-- The word after another; there is none after the largest. -/
def succ? (w : UInt32) : Option UInt32 :=
  if w.toNat + 1 < UInt32.size then some (w + 1) else none

/-- The code that is a given word, unless that is zero. -/
def ofWord? (w : UInt32) : Option Code :=
  if h : w ≠ 0 then some ⟨w, h⟩ else none

/-- The code for an index, which is one more than the index. -/
def ofIndex? (i : UInt32) : Option Code := (succ? i).bind ofWord?

/-- The index that a code is for. -/
def index (c : Code) : UInt32 := c.word - 1

theorem toNat_add_one {w : UInt32} (h : w.toNat + 1 < UInt32.size) :
  (w + 1).toNat = w.toNat + 1
  := by
  rw [UInt32.toNat_add, UInt32.toNat_one, Nat.mod_eq_of_lt h]

theorem ofIndex?_of_largest {i : UInt32} (h : ¬ i.toNat + 1 < UInt32.size) :
  ofIndex? i = none
  := by
  rw [ofIndex?, succ?, if_neg h, Option.bind_none]

/-- Every other word has one, which is for that index. -/
theorem ofIndex?_of_lt {i : UInt32} (h : i.toNat + 1 < UInt32.size) :
  ∃ c, ofIndex? i = some c ∧ c.index = i
  := by
  have hne : i + 1 ≠ 0 := by
    intro hzero
    have := congrArg UInt32.toNat hzero
    rw [toNat_add_one h] at this
    cases this
  refine ⟨⟨i + 1, hne⟩, ?_, ?_⟩
  · rw [ofIndex?, succ?, if_pos h, Option.bind_some, ofWord?, dif_pos hne]
  · apply UInt32.add_sub_cancel

/-- No code is for the largest word. -/
theorem toNat_index_lt (c : Code) :
  c.index.toNat < capacity
  := by
  have hpos : 1 ≤ c.word.toNat := by
    apply Nat.pos_of_ne_zero
    intro hzero
    apply c.ne_zero (UInt32.toNat_inj.1 hzero)
  have hle : (1 : UInt32) ≤ c.word := UInt32.le_iff_toNat_le.2 hpos
  have hlt : c.word.toNat < UInt32.size := c.word.toNat_lt
  rw [index, UInt32.toNat_sub_of_le _ _ hle, UInt32.toNat_one]
  rw [capacity_eq]
  omega

/-- The entity that a code is kept for. -/
def entity (c : Code) : Entity := ⟨c.index.toNat, c.toNat_index_lt⟩

/-- A word has a code exactly if it is the index of an entity, and the code is for that entity. -/
theorem entity_ofIndex? (i : UInt32) :
  (ofIndex? i).map entity = Entity.ofIndex? i.toNat
  := by
  by_cases h : i.toNat + 1 < UInt32.size
  · obtain ⟨c, hc, hi⟩ := ofIndex?_of_lt h
    rw [hc, Entity.ofIndex?, dif_pos (lt_capacity_iff.2 h), Option.map_some]
    simp only [entity, hi]
  · rw [ofIndex?_of_largest h, Entity.ofIndex?, dif_neg (h ∘ lt_capacity_iff.1)]
    rfl

/-- Only the largest word has no code as an index. -/
theorem ofIndex?_eq_none_iff (i : UInt32) :
  ofIndex? i = none ↔ i.toNat = UInt32.size - 1
  := by
  have hword : i.toNat < UInt32.size := i.toNat_lt
  constructor
  · intro hnone
    by_contra hne
    obtain ⟨c, hc, -⟩ := ofIndex?_of_lt (i := i) (by omega)
    rw [hc] at hnone
    cases hnone
  · intro h
    apply ofIndex?_of_largest
    omega

/-- The index of the code for an index is that index. -/
theorem index_of_ofIndex? {i : UInt32} {c : Code} (h : ofIndex? i = some c) :
  c.index = i
  := by
  by_cases hlt : i.toNat + 1 < UInt32.size
  · obtain ⟨d, hd, hi⟩ := ofIndex?_of_lt hlt
    rw [hd] at h
    cases h
    apply hi
  · rw [ofIndex?_of_largest hlt] at h
    cases h

end Code

/-! ### Counters -/

/-- The word that an allocator is kept as. -/
structure Counter where
  /-- The index of the next entity. -/
  next : UInt32 := 0
  deriving DecidableEq

namespace Counter

/-- The allocator that a counter is kept for. -/
def allocator (c : Counter) : Allocator := ⟨c.next.toNat⟩

/-- The result of an allocation and what it leaves of the counter; the addition wraps around. -/
def allocate (c : Counter) : Option Code × Counter :=
  match Code.ofIndex? c.next with
  | none => (none, c)
  | some code => (some code, ⟨c.next + 1⟩)

/-- The results of `n` allocations in a row, with the counter that they leave. -/
def allocateMany (c : Counter) : (n : Nat) → List (Option Code) × Counter
  | 0 => ([], c)
  | n + 1 =>
    let (code, d) := c.allocate
    let (later, e) := d.allocateMany n
    (code :: later, e)

/-- An allocation that fails leaves the counter as it was. -/
theorem allocate_of_none {c : Counter} (h : c.allocate.1 = none) :
  c.allocate.2 = c
  := by
  rw [allocate] at h ⊢
  cases hcode : Code.ofIndex? c.next with
  | none => rfl
  | some code =>
    rw [hcode] at h
    cases h

/-- An allocation that succeeds adds one to the counter, without wrapping around. -/
theorem toNat_next_allocate {c : Counter} {code : Code} (h : c.allocate.1 = some code) :
  c.allocate.2.next.toNat = c.next.toNat + 1
  := by
  rw [allocate] at h ⊢
  by_cases hlt : c.next.toNat + 1 < UInt32.size
  · obtain ⟨d, hd, -⟩ := Code.ofIndex?_of_lt hlt
    rw [hd]
    apply Code.toNat_add_one hlt
  · rw [Code.ofIndex?_of_largest hlt] at h
    cases h

/-- An allocation of a counter is one of its allocator. -/
theorem allocator_allocate (c : Counter) :
  c.allocator.allocate = (c.allocate.1.map Code.entity).map (·, c.allocate.2.allocator)
  := by
  rw [Allocator.allocate, allocator, ← Code.entity_ofIndex?]
  cases hcode : Code.ofIndex? c.next with
  | none =>
    rw [allocate, hcode]
    rfl
  | some code =>
    have hsome : c.allocate.1 = some code := by rw [allocate, hcode]
    rw [hsome, allocator, toNat_next_allocate hsome]

/-- Allocations of a counter are those of its allocator. -/
theorem allocator_allocateMany (c : Counter) (n : Nat) :
  c.allocator.allocateMany n =
    ((c.allocateMany n).1.map (Option.map Code.entity), (c.allocateMany n).2.allocator)
  := by
  induction n generalizing c with
  | zero => rfl
  | succ n ih =>
    rw [Allocator.allocateMany, allocator_allocate]
    cases hcode : c.allocate.1 with
    | none =>
      have hsame := allocate_of_none hcode
      simp only [allocateMany, hcode, hsame, ih c, Option.map_none, List.map_cons]
    | some code =>
      simp only [allocateMany, hcode, ih c.allocate.2, Option.map_some, List.map_cons]

end Counter

/-! ### Allocations in a row -/

namespace Allocator

theorem allocate_eq_none_iff (a : Allocator) :
  a.allocate = none ↔ capacity ≤ a.next
  := by
  rw [allocate, Option.map_eq_none_iff, ofIndex?]
  split
  next h => simp [h]
  next h => simp [Nat.le_of_not_lt h]

theorem allocate_of_lt {a : Allocator} (h : a.next < capacity) :
  a.allocate = some (⟨a.next, h⟩, ⟨a.next + 1⟩)
  := by
  rw [allocate, ofIndex?, dif_pos h, Option.map_some]

/-- After an allocation that failed all others fail. -/
theorem allocateMany_of_none {a : Allocator} (h : a.allocate = none) (n : Nat) :
  a.allocateMany n = (List.replicate n none, a)
  := by
  induction n with
  | zero => rfl
  | succ n ih => simp only [allocateMany, h, ih, List.replicate_succ]

/-- Allocations issue the indices that are left, in order, and fail when none is left. -/
theorem allocateMany_eq (a : Allocator) (ha : a.next ≤ capacity) (n : Nat) :
  (a.allocateMany n).1.map (Option.map index) =
      (List.range' a.next (min n (capacity - a.next))).map some
        ++ List.replicate (n - (capacity - a.next)) none
    ∧ (a.allocateMany n).2.next = a.next + min n (capacity - a.next)
  := by
  induction n generalizing a with
  | zero => simp [allocateMany]
  | succ n ih =>
    rcases Nat.lt_or_eq_of_le ha with hlt | hfull
    · obtain ⟨hissued, hnext⟩ := ih ⟨a.next + 1⟩ hlt
      have hleft : capacity - a.next = capacity - (a.next + 1) + 1 := by omega
      simp only [allocateMany, allocate_of_lt hlt, List.map_cons, hissued, hnext]
      rw [hleft, Nat.add_min_add_right, Nat.add_sub_add_right, List.range'_succ]
      constructor
      · rfl
      · omega
    · -- No index is left, so this allocation fails and with it all the others.
      have hnone := (allocate_eq_none_iff a).2 (Nat.le_of_eq hfull.symm)
      rw [allocateMany_of_none hnone, hfull, Nat.sub_self]
      simp

end Allocator

/-- A store whose allocator fails creates nothing and stays as it is. -/
theorem create_of_allocate_none {s : Store} (h : s.allocator.allocate = none) :
  s.create = .error .exhausted ∧ s.edit .create = s
  := by
  have hcreate := Store.create_of_full ((Allocator.allocate_eq_none_iff _).1 h)
  refine ⟨hcreate, ?_⟩
  rw [Store.edit, hcreate]
  rfl

/-- A store creates the entity that its allocator issues. -/
theorem create_of_allocate_some {s : Store} {e : Entity} {a : Allocator}
    (h : s.allocator.allocate = some (e, a)) :
  ∃ t, s.create = .ok (e, t) ∧ t.allocator = a ∧ s.edit .create = t
  := by
  have hlt : s.allocator.next < capacity := by
    by_contra hnot
    rw [(Allocator.allocate_eq_none_iff _).2 (Nat.le_of_not_lt hnot)] at h
    cases h
  obtain ⟨⟨e', t⟩, ht⟩ := Store.create_of_room hlt
  obtain ⟨hindex, hnext, -, -⟩ := Store.create_eq_ok ht
  rw [Allocator.allocate_of_lt hlt] at h
  cases h
  have he : e' = ⟨s.allocator.next, hlt⟩ := by
    cases e'
    cases hindex
    rfl
  have ha : t.allocator = ⟨s.allocator.next + 1⟩ := by
    rw [← hnext]
  refine ⟨t, by rw [ht, he], ha, ?_⟩
  rw [Store.edit, ht]
  rfl

/-- A new allocator issues the entities in the order of their indices up to the last one, and
fails after that; its counter of 32 bits never wraps around, and whatever fails changes nothing. -/
theorem issues_in_order (n : Nat) :
  (Allocator.allocateMany {} n).1.map (Option.map index) =
      (List.range (min n (UInt32.size - 1))).map some ++ List.replicate (n - (UInt32.size - 1)) none
    ∧ (Counter.allocateMany {} n).1.map (Option.map Code.entity) = (Allocator.allocateMany {} n).1
    ∧ (Counter.allocateMany {} n).2.next.toNat = min n (UInt32.size - 1)
    ∧ (∀ c : Counter,
        (∀ code, c.allocate.1 = some code → c.allocate.2.next.toNat = c.next.toNat + 1)
          ∧ (c.allocate.1 = none → c.allocate.2 = c))
    ∧ (∀ s : Store,
        (s.allocator.allocate = none → s.create = .error .exhausted ∧ s.edit .create = s)
          ∧ ∀ e a, s.allocator.allocate = some (e, a) →
            ∃ t, s.create = .ok (e, t) ∧ t.allocator = a ∧ s.edit .create = t)
    ∧ ∀ i,
        (Code.ofIndex? i).map Code.entity = ofIndex? i.toNat
          ∧ (Code.ofIndex? i = none ↔ i.toNat = UInt32.size - 1)
          ∧ ∀ c, Code.ofIndex? i = some c → c.index = i
  := by
  have hcounter := Counter.allocator_allocateMany {} n
  obtain ⟨hissued, hnext⟩ := Allocator.allocateMany_eq {} (Nat.zero_le _) n
  have hsame : Counter.allocator {} = {} := rfl
  rw [hsame] at hcounter
  refine ⟨?issued, ?same, ?next, ?counter, ?store, ?index⟩
  case issued => rw [hissued, Nat.sub_zero, ← List.range_eq_range', capacity_eq]
  case same => rw [hcounter]
  case next =>
    rw [hcounter] at hnext
    rw [← Nat.zero_add (min _ _)]
    apply hnext
  case counter =>
    intro c
    exact ⟨fun _ => Counter.toNat_next_allocate, Counter.allocate_of_none⟩
  case store =>
    intro s
    exact ⟨create_of_allocate_none, fun _ _ => create_of_allocate_some⟩
  case index =>
    intro i
    exact ⟨Code.entity_ofIndex? i, Code.ofIndex?_eq_none_iff i, fun _ => Code.index_of_ofIndex?⟩

/-- The counter that has issued all indices stops there. -/
theorem issues_in_order_largest :
  (Counter.allocateMany {} UInt32.size).2.next.toNat = UInt32.size - 1
    ∧ (Counter.allocate ⟨0xFFFFFFFF⟩).1 = none
    ∧ (Counter.allocate ⟨0xFFFFFFFF⟩).2 = ⟨0xFFFFFFFF⟩
    ∧ (Counter.allocate ⟨0xFFFFFFFE⟩).2.next.toNat = 0xFFFFFFFF
  := by
  obtain ⟨-, -, hnext, hcounter, -⟩ := issues_in_order UInt32.size
  have hnone : (Counter.allocate ⟨0xFFFFFFFF⟩).1 = none := by decide
  have hsome : (Counter.allocate ⟨0xFFFFFFFE⟩).1 = some ⟨0xFFFFFFFF, by decide⟩ := by decide
  exact ⟨hnext, hnone, (hcounter _).2 hnone, (hcounter _).1 _ hsome⟩

end Servo.Entity
