/-!
# Dictionaries

A `Dictionary α` gives values to finitely many texts, its keys, which are kept in
increasing order.  `Dictionary.get?` looks a key up, and `Dictionary.insert` gives a key a
new value.
-/

namespace Servo

/-- Values for finitely many keys. -/
structure Dictionary (α : Type) where
  /-- The keys with their values. -/
  entries : List (String × α)
  increasing : entries.Pairwise (fun p q => p.1 < q.1)

namespace Dictionary

variable {α : Type}

/-- The dictionary without keys. -/
def empty : Dictionary α := ⟨[], .nil⟩

instance : Inhabited (Dictionary α) := ⟨empty⟩

/-- The keys, in increasing order. -/
def keys (d : Dictionary α) : List String := d.entries.map (·.1)

/-- The value of a key. -/
def get? (d : Dictionary α) (k : String) : Option α :=
  (d.entries.find? (·.1 = k)).map (·.2)

/-- Whether a key has a value. -/
def contains (d : Dictionary α) (k : String) : Bool := (d.get? k).isSome

/-- Puts an entry in its place, where it takes over from an entry with the same key. -/
def insertEntry (k : String) (a : α) : List (String × α) → List (String × α)
  | [] => [(k, a)]
  | (m, b) :: rest =>
    if k < m then (k, a) :: (m, b) :: rest
    else if k = m then (k, a) :: rest
    else (m, b) :: insertEntry k a rest

theorem mem_insertEntry {k : String} {a : α} {p : String × α} {l : List (String × α)}
    (h : p ∈ insertEntry k a l) :
  p = (k, a) ∨ p ∈ l
  := by
  induction l with
  | nil => simp_all [insertEntry]
  | cons q rest ih => grind [insertEntry]

/-- Insertion keeps the order of the keys. -/
theorem insertEntry_increasing (k : String) (a : α) {l : List (String × α)}
    (h : l.Pairwise (fun p q => p.1 < q.1)) :
  (insertEntry k a l).Pairwise (fun p q => p.1 < q.1)
  := by
  induction l with
  | nil => simp [insertEntry]
  | cons q rest ih =>
    obtain ⟨m, b⟩ := q
    obtain ⟨hm, hrest⟩ := List.pairwise_cons.1 h
    unfold insertEntry
    split
    next hlt =>
      refine List.pairwise_cons.2 ⟨?_, h⟩
      intro p hp
      rcases List.mem_cons.1 hp with rfl | hp
      · exact hlt
      · exact String.lt_trans hlt (hm p hp)
    next hge =>
      split
      next heq => subst heq; exact List.pairwise_cons.2 ⟨hm, hrest⟩
      next hne =>
        refine List.pairwise_cons.2 ⟨?_, ih hrest⟩
        intro p hp
        rcases mem_insertEntry hp with rfl | hp
        · exact Std.lt_of_le_of_ne (String.not_lt.1 hge) (Ne.symm hne)
        · exact hm p hp

/-- The dictionary in which `k` has the value `a` and every other key what it had. -/
def insert (d : Dictionary α) (k : String) (a : α) : Dictionary α :=
  ⟨insertEntry k a d.entries, insertEntry_increasing k a d.increasing⟩

/-- What was inserted is looked up, and every other key has the value that it had. -/
theorem get?_insert (d : Dictionary α) (k m : String) (a : α) :
  (d.insert k a).get? m = if m = k then some a else d.get? m
  := by
  simp only [get?, insert]
  induction d.entries with
  | nil => grind [insertEntry]
  | cons p rest ih =>
    rw [insertEntry]
    split
    next => grind
    next =>
      split
      next => grind
      next => simp only [List.find?_cons]; grind

/-- The dictionary of a list of entries, in which a later entry takes over from an earlier
one with the same key. -/
def ofList (l : List (String × α)) : Dictionary α :=
  l.foldl (fun d p => d.insert p.1 p.2) empty

end Dictionary

end Servo
