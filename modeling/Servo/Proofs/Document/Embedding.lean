import Mathlib.Data.List.Basic
import Servo.Document.Record

/-!
# Trees in another notation

A tree whose scalars are replaced one by one, `Tree.relabel`, keeps its lists, maps and
keys.  If a dialect reads the new scalars as what they stand for, `Dialect.Carries`, then
a record of the old tree is read in it member by member, and no reference is followed.
-/

namespace Servo.Document

@[simp]
theorem Fields.keys_ofList (l : List (String × Shape)) :
  (Fields.ofList l).keys = l.map Prod.fst
  := by
  induction l with
  | nil => rfl
  | cons p l ih => rw [Fields.ofList, Fields.keys, ih, List.map_cons]

/-! ### Trees -/

namespace Tree

variable {α β : Type}

mutual

/-- Whether two trees are equal. -/
def decEq [DecidableEq α] : (s t : Tree α) → Decidable (s = t)
  | .leaf a, .leaf b => decidable_of_iff (a = b) (by simp)
  | .list ss, .list ts =>
    have := decEqItems ss ts
    decidable_of_iff (ss = ts) (by simp)
  | .map ms, .map ns =>
    have := decEqMembers ms ns
    decidable_of_iff (ms = ns) (by simp)
  | .leaf _, .list _ | .leaf _, .map _ | .list _, .leaf _ | .list _, .map _ | .map _, .leaf _
  | .map _, .list _ => isFalse nofun

/-- Whether two lists of trees are equal. -/
def decEqItems [DecidableEq α] : (ss ts : List (Tree α)) → Decidable (ss = ts)
  | [], [] => isTrue rfl
  | s :: ss, t :: ts =>
    have := decEq s t
    have := decEqItems ss ts
    decidable_of_iff (s = t ∧ ss = ts) (by simp)
  | [], _ :: _ | _ :: _, [] => isFalse nofun

/-- Whether the members of two maps are equal. -/
def decEqMembers [DecidableEq α] : (ms ns : List (α × Tree α)) → Decidable (ms = ns)
  | [], [] => isTrue rfl
  | (a, s) :: ms, (b, t) :: ns =>
    have := decEq s t
    have := decEqMembers ms ns
    decidable_of_iff (a = b ∧ s = t ∧ ms = ns) (by simp [and_assoc])
  | [], _ :: _ | _ :: _, [] => isFalse nofun

end

instance [DecidableEq α] : DecidableEq (Tree α) := decEq
mutual

/-- The tree with the scalar `f a` in place of every scalar `a`. -/
def relabel (f : α → β) : Tree α → Tree β
  | .leaf a => .leaf (f a)
  | .list ts => .list (relabelItems f ts)
  | .map ms => .map (relabelMembers f ms)

/-- The items of a list with other scalars. -/
def relabelItems (f : α → β) : List (Tree α) → List (Tree β)
  | [] => []
  | t :: ts => t.relabel f :: relabelItems f ts

/-- The members of a map with other scalars. -/
def relabelMembers (f : α → β) : List (α × Tree α) → List (β × Tree β)
  | [] => []
  | (a, t) :: ms => (f a, t.relabel f) :: relabelMembers f ms

end

theorem relabelItems_eq (f : α → β) (ts : List (Tree α)) :
  relabelItems f ts = ts.map (relabel f)
  := by
  induction ts with
  | nil => rfl
  | cons t ts ih => rw [relabelItems, ih, List.map_cons]

theorem relabelMembers_eq (f : α → β) (ms : List (α × Tree α)) :
  relabelMembers f ms = ms.map fun m => (f m.1, m.2.relabel f)
  := by
  induction ms with
  | nil => rfl
  | cons m ms ih => rw [relabelMembers, ih, List.map_cons]

theorem relabel_leaf (f : α → β) (a : α) : (Tree.leaf a).relabel f = .leaf (f a) := rfl

theorem relabel_list (f : α → β) (ts : List (Tree α)) :
  (Tree.list ts).relabel f = .list (ts.map (relabel f))
  := by rw [relabel, relabelItems_eq]

theorem relabel_map (f : α → β) (ms : List (α × Tree α)) :
  (Tree.map ms).relabel f = .map (ms.map fun m => (f m.1, m.2.relabel f))
  := by rw [relabel, relabelMembers_eq]

/-- What holds of a tree if it holds of its parts holds of all trees. -/
@[induction_eliminator]
theorem induction {P : Tree α → Prop} (leaf : ∀ a, P (.leaf a))
    (list : ∀ ts, (∀ t ∈ ts, P t) → P (.list ts))
    (map : ∀ ms, (∀ m ∈ ms, P m.2) → P (.map ms)) (t : Tree α) : P t :=
  match t with
  | .leaf a => leaf a
  | .list ts => list ts fun t _ => induction leaf list map t
  | .map ms => map ms fun m _ => induction leaf list map m.2
termination_by sizeOf t
decreasing_by
  · have := List.sizeOf_lt_of_mem ‹t ∈ ts›
    simp only [Tree.list.sizeOf_spec]
    omega
  · have := List.sizeOf_lt_of_mem ‹m ∈ ms›
    cases m
    simp only [Tree.map.sizeOf_spec, Prod.mk.sizeOf_spec] at *
    omega

mutual

/-- The keys of a tree satisfy `K`, and its other scalars satisfy `P`. -/
def All (P K : α → Prop) : Tree α → Prop
  | .leaf a => P a
  | .list ts => AllItems P K ts
  | .map ms => AllMembers P K ms

/-- All items of a list satisfy `All`. -/
def AllItems (P K : α → Prop) : List (Tree α) → Prop
  | [] => True
  | t :: ts => t.All P K ∧ AllItems P K ts

/-- All members of a map satisfy `All`. -/
def AllMembers (P K : α → Prop) : List (α × Tree α) → Prop
  | [] => True
  | (a, t) :: ms => (K a ∧ t.All P K) ∧ AllMembers P K ms

end

theorem all_list_iff {P K : α → Prop} {ts : List (Tree α)} :
  (Tree.list ts).All P K ↔ ∀ t ∈ ts, t.All P K
  := by
  rw [All]
  induction ts with
  | nil => simp [AllItems]
  | cons t ts ih => rw [AllItems, ih, List.forall_mem_cons]

theorem all_map_iff {P K : α → Prop} {ms : List (α × Tree α)} :
  (Tree.map ms).All P K ↔ ∀ m ∈ ms, K m.1 ∧ m.2.All P K
  := by
  rw [All]
  induction ms with
  | nil => simp [AllMembers]
  | cons m ms ih => rw [AllMembers, ih, List.forall_mem_cons]

theorem all_record_iff {P K : Scalar → Prop} {ms : List (String × Tree Scalar)} :
  (record ms).All P K ↔ ∀ m ∈ ms, K (.text m.1) ∧ m.2.All P K
  := by
  rw [record, all_map_iff]
  simp only [List.forall_mem_map]

theorem relabel_record (f : Scalar → β) (ms : List (String × Tree Scalar)) :
  (record ms).relabel f = .map (ms.map fun m => (f (.text m.1), m.2.relabel f))
  := by rw [record, relabel_map, List.map_map]; rfl

end Tree

/-! ### Reading lists -/

/-- A list whose elements are all read as what a function gives is read as the list of that. -/
theorem mapM_eq_map {α β : Type} {read? : α → Option β} {g : α → β} {l : List α}
    (h : ∀ a ∈ l, read? a = some (g a)) :
  l.mapM read? = some (l.map g)
  := by
  induction l with
  | nil => rfl
  | cons a l ih =>
    rw [List.mapM_cons, h a List.mem_cons_self, ih]
    · rfl
    · intro b hb
      apply h b (List.mem_cons_of_mem _ hb)

theorem mapM_eq_self {α : Type} {read? : α → Option α} {l : List α}
    (h : ∀ a ∈ l, read? a = some a) :
  l.mapM read? = some l
  := by
  rw [mapM_eq_map h, List.map_id']

theorem mapM_eq_none {α β : Type} {read? : α → Option β} {l : List α} {a : α} (ha : a ∈ l)
    (h : read? a = none) :
  l.mapM read? = none
  := by
  induction l with
  | nil => cases ha
  | cons b l ih =>
    rw [List.mapM_cons]
    rcases List.mem_cons.1 ha with rfl | ha
    · rw [h]
      rfl
    · rw [ih ha]
      cases read? b <;> rfl

/-- A list that is read is read in any order. -/
theorem mapM_perm {β γ : Type} {read? : β → Option γ} {l l' : List β} (h : l.Perm l')
    {cs : List γ} (hread : l.mapM read? = some cs) :
  ∃ cs', l'.mapM read? = some cs' ∧ cs'.Perm cs
  := by
  induction h generalizing cs with
  | nil => exact ⟨cs, hread, .refl _⟩
  | cons b _ ih =>
    simp only [List.mapM_cons, Option.bind_eq_bind, Option.bind_eq_some_iff] at hread
    obtain ⟨c, hc, rest, hrest, ⟨⟩⟩ := hread
    obtain ⟨rest', hrest', hperm⟩ := ih hrest
    refine ⟨c :: rest', ?_, hperm.cons c⟩
    rw [List.mapM_cons, hc, hrest']
    rfl
  | swap a b l =>
    simp only [List.mapM_cons, Option.bind_eq_bind, Option.bind_eq_some_iff] at hread
    obtain ⟨c, hc, rest, ⟨c', hc', rest', hrest', ⟨⟩⟩, ⟨⟩⟩ := hread
    refine ⟨c' :: c :: rest', ?_, .swap c c' rest'⟩
    rw [List.mapM_cons, List.mapM_cons, hc, hc', hrest']
    rfl
  | trans _ _ ih ih' =>
    obtain ⟨cs', hread', hperm⟩ := ih hread
    obtain ⟨cs'', hread'', hperm'⟩ := ih' hread'
    exact ⟨cs'', hread'', hperm'.trans hperm⟩

/-! ### Slots -/

/-- The slot of a member, if there is one. -/
def Slot.ofMember {α : Type} : Option (Tree α) → Slot α
  | some t => .given t
  | none => .omitted

namespace Dialect

variable {α : Type}

/-! ### Dialects that read a scalar as what it stands for -/

/-- In the dialect `d`, the scalar `f a` is read as `a`, numbers apart, and refers to
nothing. -/
structure Carries (d : Dialect α) (f : Scalar → α) : Prop where
  target (a : Scalar) : d.target? (f a) = none
  text (s : String) : d.text? (f (.text s)) = some s
  word (s : String) : d.word? (f (.text s)) = some s
  natural (n : UInt32) : d.natural? (f (.int n.toNat)) = some n.toNat
  bool (b : Bool) : d.value? (f (.bool b)) = some (.bool b)
  int (n : Int64) : d.value? (f (.int n.toInt)) = some (.int n)
  string (s : String) : d.value? (f (.text s)) = some (.text s)

/-- The number `x` is read as itself wherever a number may stand. -/
structure Keeps (d : Dialect α) (f : Scalar → α) (x : Float) : Prop where
  float : d.float? (f (.float x)) = some x
  present : d.absent? (f (.float x)) = some false
  value : d.value? (f (.float x)) = some (.float x)

/-- The number `x` cannot be read where a number must stand. -/
structure Loses (d : Dialect α) (f : Scalar → α) (x : Float) : Prop where
  float : d.float? (f (.float x)) = none
  value : d.value? (f (.float x)) = none

variable {d : Dialect α} {f : Scalar → α}

namespace Carries

theorem resolve (h : d.Carries f) (t : Tree Scalar) :
  d.resolve (t.relabel f) = t.relabel f
  := by
  cases t with
  | leaf a => rw [Tree.relabel_leaf, Dialect.resolve, h.target, Option.getD_none]
  | list ts => rw [Tree.relabel_list, Dialect.resolve]; rintro _ ⟨⟩
  | map ms => rw [Tree.relabel_map, Dialect.resolve]; rintro _ ⟨⟩

/-! ### Texts, numbers and lists -/

theorem textOf? (h : d.Carries f) (s : String) :
  d.textOf? ((Tree.text s).relabel f) = some s
  := by
  rw [Dialect.textOf?, h.resolve]
  apply h.text

theorem wordOf? (h : d.Carries f) (s : String) :
  d.wordOf? ((Tree.text s).relabel f) = some s
  := by
  rw [Dialect.wordOf?, h.resolve]
  apply h.word

theorem floatOf? (h : d.Carries f) (x : Float) :
  d.floatOf? ((Tree.float x).relabel f) = d.float? (f (.float x))
  := by
  rw [Dialect.floatOf?, h.resolve]
  rfl

theorem absentOf? (h : d.Carries f) (x : Float) :
  d.absentOf? ((Tree.float x).relabel f) = d.absent? (f (.float x))
  := by
  rw [Dialect.absentOf?, h.resolve]
  rfl

theorem naturalOf? (h : d.Carries f) (n : UInt32) :
  d.naturalOf? ((Tree.leaf (.int n.toNat)).relabel f) = some n
  := by
  rw [Dialect.naturalOf?, h.resolve, Tree.relabel_leaf]
  simp only [h.natural, Option.bind_some]
  rw [if_pos n.toNat_lt, UInt32.ofNat_toNat]

theorem listOf? (h : d.Carries f) {β : Type} (read? : Tree α → Option β)
    (ts : List (Tree Scalar)) :
  d.listOf? read? ((Tree.list ts).relabel f) = ts.mapM fun t => read? (t.relabel f)
  := by
  rw [Dialect.listOf?, h.resolve, Tree.relabel_list]
  apply List.mapM_map

/-! ### Records -/

theorem named? (h : d.Carries f) (ms : List (String × Tree Scalar)) :
  d.named? (ms.map fun m => (f (.text m.1), m.2.relabel f))
    = some (ms.map fun m => (m.1, m.2.relabel f))
  := by
  have hkey (m : String × Tree Scalar) :
      (d.textOf? (.leaf (f (.text m.1)))).map (·, m.2.relabel f) = pure (m.1, m.2.relabel f) := by
    rw [← Tree.relabel_leaf, ← Tree.text, h.textOf?]
    rfl
  rw [Dialect.named?, List.mapM_map]
  simp only [Function.comp_def, hkey]
  apply List.mapM_pure

end Carries

/-- Without a repeated key there is one member with a key, or none. -/
theorem filter_key_eq {β : Type} {ms : List (String × β)} (hms : (ms.map Prod.fst).Nodup)
    (key : String) :
  ms.filter (·.1 = key) = ((ms.lookup key).map (key, ·)).toList
  := by
  induction ms with
  | nil => rfl
  | cons m ms ih =>
    obtain ⟨hm, hms⟩ := List.nodup_cons.1 hms
    by_cases hkey : m.1 = key
    · have hrest : ms.filter (·.1 = key) = [] := by
        apply List.filter_eq_nil_iff.2
        intro n hn hnkey
        apply hm
        rw [hkey, ← of_decide_eq_true hnkey]
        apply List.mem_map_of_mem hn
      rw [List.filter_cons_of_pos (by simpa using hkey), hrest, ← hkey, List.lookup_cons_self]
      rfl
    · rw [List.filter_cons_of_neg (by simpa using hkey), List.lookup_cons,
        beq_false_of_ne (Ne.symm hkey)]
      apply ih hms

/-- A map without a repeated key gives for every key the member with it. -/
theorem slotOfMembers?_eq {ms : List (String × Tree α)} (hms : (ms.map Prod.fst).Nodup)
    (key : String) :
  slotOfMembers? ms key = some (Slot.ofMember (ms.lookup key))
  := by
  rw [slotOfMembers?, filter_key_eq hms]
  cases ms.lookup key with
  | none => rfl
  | some t => rfl

/-- A member of a map without a repeated key is the one that is found under its key. -/
theorem lookup_of_mem {β : Type} {ms : List (String × β)} (hms : (ms.map Prod.fst).Nodup)
    {m : String × β} (hm : m ∈ ms) :
  ms.lookup m.1 = some m.2
  := by
  induction ms with
  | nil => cases hm
  | cons n ms ih =>
    obtain ⟨hn, hms⟩ := List.nodup_cons.1 hms
    rcases List.mem_cons.1 hm with rfl | hm
    · apply List.lookup_cons_self
    · have hne : m.1 ≠ n.1 := by
        intro heq
        apply hn
        rw [← heq]
        apply List.mem_map_of_mem hm
      rw [List.lookup_cons, beq_false_of_ne hne]
      apply ih hms hm

/-- A key that no member has is not found. -/
theorem lookup_eq_none {β : Type} {ms : List (String × β)} {key : String}
    (h : key ∉ ms.map Prod.fst) :
  ms.lookup key = none
  := by
  apply List.lookup_eq_none_iff.2
  intro m hm
  apply bne_iff_ne.2
  rintro rfl
  apply h (List.mem_map_of_mem hm)

theorem lookup_relabel (ms : List (String × Tree Scalar)) (key : String) :
  (ms.map fun m => (m.1, m.2.relabel f)).lookup key = (ms.lookup key).map (Tree.relabel f)
  := by
  induction ms with
  | nil => rfl
  | cons m ms ih =>
    rw [List.map_cons, List.lookup_cons, List.lookup_cons, ih]
    split <;> rfl

/-- A record is read if each of its keys is given at most once. -/
theorem Carries.record?_eq_some (h : d.Carries f) (fields : Fields)
    {ms : List (String × Tree Scalar)} {g : String → Slot α} (hg : ∀ key ∈ fields.keys,
      slotOfMembers? (ms.map fun m => (m.1, m.2.relabel f)) key = some (g key)) :
  ∃ slot, d.record? fields ((Tree.record ms).relabel f) = some slot
    ∧ ∀ key ∈ fields.keys, slot key = g key
  := by
  have hslots : d.slots? fields.keys ((Tree.record ms).relabel f)
      = some (fields.keys.map fun key => (key, g key)) := by
    rw [Dialect.slots?, h.resolve, Tree.relabel_record]
    simp only [h.named?, Option.bind_eq_bind, Option.bind_some]
    apply mapM_eq_map
    intro key hkey
    rw [hg key hkey, Option.map_some]
  refine ⟨_, by rw [Dialect.record?, hslots, Option.map_some], ?_⟩
  intro key hkey
  rw [List.lookup_graph _ hkey, Option.getD_some]

/-- A record is read member by member: its keys give the trees behind them, and other keys
are omitted. -/
theorem Carries.record? (h : d.Carries f) (fields : Fields) (ms : List (String × Tree Scalar))
    (hms : (ms.map Prod.fst).Nodup) :
  ∃ slot, d.record? fields ((Tree.record ms).relabel f) = some slot
    ∧ (∀ m ∈ ms, m.1 ∈ fields.keys → slot m.1 = .given (m.2.relabel f))
    ∧ ∀ key ∈ fields.keys, key ∉ ms.map Prod.fst → slot key = .omitted
  := by
  have hkeys : ((ms.map fun m => (m.1, m.2.relabel f)).map Prod.fst).Nodup := by
    rw [List.map_map]
    exact hms
  obtain ⟨slot, hslot, hgives⟩ := h.record?_eq_some fields
    fun key _ => slotOfMembers?_eq hkeys key
  simp only [lookup_relabel] at hgives
  refine ⟨slot, hslot, ?_, ?_⟩
  · intro m hm hkey
    rw [hgives _ hkey, lookup_of_mem hms hm]
    rfl
  · intro key hkey hms
    rw [hgives key hkey, lookup_eq_none hms]
    rfl

/-! ### References -/

theorem Carries.follow? (h : d.Carries f) (allowance : Nat) (t : Tree Scalar) :
  d.follow? allowance (t.relabel f) = some (t.relabel f, allowance)
  := by
  cases t with
  | leaf a => rw [Tree.relabel_leaf, Dialect.follow?, h.target]
  | list ts => rw [Tree.relabel_list, Dialect.follow?]; rintro _ ⟨⟩
  | map ms => rw [Tree.relabel_map, Dialect.follow?]; rintro _ ⟨⟩

/-- A fold that never changes its start ends with it. -/
theorem foldlM_eq_start {β γ : Type} {step : β → γ → Option β} {b : β} {l : List γ}
    (h : ∀ c ∈ l, step b c = some b) :
  l.foldlM step b = some b
  := by
  induction l with
  | nil => rfl
  | cons c l ih =>
    rw [List.foldlM_cons, h c List.mem_cons_self]
    apply ih
    intro c hc
    apply h c (List.mem_cons_of_mem _ hc)

mutual

/-- Reading a tree without references takes nothing from the allowance. -/
theorem Carries.spend? (h : d.Carries f) (shape : Shape) (allowance : Nat)
    (t : Tree Scalar) :
  d.spend? shape allowance (t.relabel f) = some allowance
  := by
  cases shape with
  | scalar => rw [Dialect.spend?, h.follow?, Option.map_some]
  | list item =>
    rw [Dialect.spend?, h.follow?]
    cases t with
    | leaf a => rfl
    | map ms => rw [Tree.relabel_map]; rfl
    | list ts =>
      rw [Tree.relabel_list]
      apply foldlM_eq_start
      intro _ ht
      obtain ⟨t, -, rfl⟩ := List.mem_map.1 ht
      apply Carries.spend? h
  | dictionary value =>
    rw [Dialect.spend?, h.follow?]
    cases t with
    | leaf a => rfl
    | list ts => rw [Tree.relabel_list]; rfl
    | map ms =>
      rw [Tree.relabel_map]
      apply foldlM_eq_start
      intro _ hm
      obtain ⟨m, -, rfl⟩ := List.mem_map.1 hm
      have hkey := h.follow? allowance (.leaf m.1)
      rw [Tree.relabel_leaf] at hkey
      rw [hkey]
      apply Carries.spend? h
  | record fields =>
    rw [Dialect.spend?, h.follow?]
    cases t with
    | leaf a => rfl
    | list ts => rw [Tree.relabel_list]; rfl
    | map ms =>
      rw [Tree.relabel_map]
      apply foldlM_eq_start
      intro _ hm
      obtain ⟨m, -, rfl⟩ := List.mem_map.1 hm
      have hkey := h.follow? allowance (.leaf m.1)
      rw [Tree.relabel_leaf] at hkey
      rw [hkey]
      apply Carries.spendField? h

/-- Reading a member of a record without references takes nothing from the allowance. -/
theorem Carries.spendField? (h : d.Carries f) (fields : Fields) (key : Option String)
    (allowance : Nat) (t : Tree Scalar) :
  d.spendField? fields key allowance (t.relabel f) = some allowance
  := by
  cases fields with
  | nil => rw [Dialect.spendField?]
  | cons name shape rest =>
    rw [Dialect.spendField?]
    split
    · apply Carries.spend? h
    · apply Carries.spendField? h

end

end Dialect

end Servo.Document
