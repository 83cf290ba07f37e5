import Servo.Proofs.Document.Variation

/-!
# Deleting members

`Tree.without?` deletes a member somewhere in a document.  A record in which a required member is
missing is not read, however it varies, and then neither is a list with such an item
(`Dialect.Carries.listOf?_eq_none`), nor a record with such a list
(`Dialect.Carries.record?_without`).
-/

namespace Servo.Document

/-- A step from a tree to one of its parts. -/
inductive Step where
  | item (i : Nat)
  | member (name : String)

namespace Tree

/-- The tree without the member `key` of the record to which a path leads; none if there is no such
member. -/
def without? (key : String) : List Step → Tree Scalar → Option (Tree Scalar)
  | [], .map ms =>
    if .text key ∈ ms.map Prod.fst then some (.map (ms.filter (·.1 ≠ .text key))) else none
  | .item i :: path, .list ts =>
    (ts[i]?.bind (without? key path)).map fun t => .list (ts.set i t)
  | .member name :: path, .map ms =>
    ((ms.lookup (.text name)).bind (without? key path)).map fun t =>
      .map (ms.map fun m => if m.1 = .text name then (m.1, t) else m)
  | _, _ => none

variable {key : String} {path : List Step}

/-- A member of a record itself is deleted. -/
theorem without?_nil (ms : List (String × Tree Scalar)) :
  (record ms).without? key []
    = if key ∈ ms.map Prod.fst then some (record (ms.filter (·.1 ≠ key))) else none
  := by
  have hmem : Scalar.text key ∈ (ms.map fun m => (Scalar.text m.1, m.2)).map Prod.fst
      ↔ key ∈ ms.map Prod.fst := by
    simp
  simp only [record, without?, hmem, List.filter_map]
  simp [Function.comp_def]

/-- A member of an item of a list is deleted. -/
theorem without?_item (ts : List (Tree Scalar)) (i : Nat) :
  (list ts).without? key (.item i :: path)
    = (ts[i]?.bind (without? key path)).map fun t => list (ts.set i t)
  := rfl

/-- A member is found under its key as a scalar. -/
theorem lookup_text (ms : List (String × Tree Scalar)) (name : String) :
  (ms.map fun m => (Scalar.text m.1, m.2)).lookup (.text name) = ms.lookup name
  := by
  induction ms with
  | nil => rfl
  | cons m ms ih =>
    rw [List.map_cons, List.lookup_cons, List.lookup_cons, ih]
    by_cases hname : name = m.1
    · rw [hname, beq_self_eq_true, beq_self_eq_true]
    · rw [beq_false_of_ne hname, beq_false_of_ne (mt Scalar.text.inj hname)]

/-- A member somewhere in a member of a record is deleted. -/
theorem without?_member (ms : List (String × Tree Scalar)) (name : String) :
  (record ms).without? key (.member name :: path)
    = ((ms.lookup name).bind (without? key path)).map fun t =>
        record (ms.map fun m => if m.1 = name then (name, t) else m)
  := by
  rw [record, without?, lookup_text]
  congr 1
  funext t
  rw [record, List.map_map, List.map_map]
  congr 1
  apply List.map_congr_left
  intro m _
  by_cases hname : m.1 = name <;> simp [hname]

/-- A member is deleted from an item of a list that a record has. -/
theorem without?_member_item {ms : List (String × Tree Scalar)} {name : String} {β : Type}
    {write : β → Tree Scalar} {bs : List β} (hlist : ms.lookup name = some (.list (bs.map write)))
    {i : Nat} {b : β} (hb : bs[i]? = some b) {t : Tree Scalar}
    (ht : (write b).without? key path = some t) :
  (record ms).without? key (.member name :: .item i :: path)
    = some (record (ms.map fun m =>
        if m.1 = name then (name, .list ((bs.map write).set i t)) else m))
  := by
  rw [without?_member, hlist, Option.bind_some, without?_item, List.getElem?_map, hb,
    Option.map_some, Option.bind_some, ht, Option.map_some, Option.map_some]

end Tree

/-! ### Reading what is left -/

section

variable {α β : Type} {d : Dialect α} {f : Scalar → α} {absent : String → Option (Tree Scalar)}
  {read? : Tree α → Option β} {key : String} {path : List Step}

/-- A value that is not read in any of its variations is not read from a record that varied, if
nothing does not stand for it. -/
theorem Shape.Gives.default?_eq_none {shape : Shape} {t : Tree Scalar} {slot : Slot α}
    (h : shape.Gives absent f key t slot) (hkey : absent key ≠ some t)
    (hread : ∀ u, shape.Varies absent t u → read? (u.relabel f) = none) {default : β} :
  slot.default? read? default = none
  := by
  cases h with
  | given hu => apply hread _ hu
  | omitted h => cases hkey h

namespace Dialect

/-- A list with an item that is not read in any of its variations is not read. -/
theorem Carries.listOf?_eq_none (h : d.Carries f) {item : Shape} {ts : List (Tree Scalar)}
    {t : Tree Scalar} (ht : t ∈ ts)
    (hread : ∀ u, item.Varies absent t u → read? (u.relabel f) = none) :
  ∀ u, (Shape.list item).Varies absent (.list ts) u → d.listOf? read? (u.relabel f) = none
  := by
  rintro _ ⟨_, us, ⟨⟩, rfl, hvaries⟩
  obtain ⟨i, hi, rfl⟩ := List.getElem_of_mem ht
  have hlength := hvaries.length_eq
  rw [h.listOf?]
  apply mapM_eq_none (List.getElem_mem (hlength ▸ hi))
  apply hread
  apply hvaries.get

/-- A record from which a member was deleted gives nothing for its key. -/
theorem Carries.record?_erased (h : d.Carries f) {l : List (String × Shape)}
    {ms : List (String × Tree Scalar)} (hms : (ms.map Prod.fst).Nodup) (hkey : key ∈ l.map Prod.fst)
    {t u : Tree Scalar} (ht : (Tree.record ms).without? key [] = some t)
    (hu : (Shape.record (.ofList l)).Varies absent t u) :
  ∃ slot, d.record? (.ofList l) (u.relabel f) = some slot ∧ slot key = .omitted
  := by
  rw [Tree.without?_nil] at ht
  split at ht
  · cases ht
    obtain ⟨slot, hrecord, -, homitted⟩ :=
      h.record?_varies (hms.sublist (List.filter_sublist.map Prod.fst)) hu
    refine ⟨slot, hrecord, homitted key hkey ?_⟩
    simp
  · cases ht

variable (read?) in
/-- The list that a record has for a key is not read if a member was deleted from one of its items
without which no item is read. -/
theorem Carries.record?_without (h : d.Carries f) {l : List (String × Shape)}
    {ms : List (String × Tree Scalar)} (hms : (ms.map Prod.fst).Nodup) {name : String}
    {item : Shape} (hshape : l.lookup name = some (.list item))
    (hname : absent name = some (.list [])) {ts : List (Tree Scalar)}
    (hlist : ms.lookup name = some (.list ts))
    (hread : ∀ s ∈ ts, ∀ t, s.without? key path = some t →
      ∀ u, item.Varies absent t u → read? (u.relabel f) = none)
    {i : Nat} {t u : Tree Scalar}
    (ht : (Tree.record ms).without? key (.member name :: .item i :: path) = some t)
    (hu : (Shape.record (.ofList l)).Varies absent t u) :
  ∃ slot, d.record? (.ofList l) (u.relabel f) = some slot
    ∧ (slot name).default? (d.listOf? read?) [] = none
  := by
  rw [Tree.without?_member, hlist, Option.bind_some, Tree.without?_item] at ht
  simp only [Option.map_eq_some_iff, Option.bind_eq_some_iff] at ht
  obtain ⟨_, ⟨s', ⟨s, hs, hs'⟩, rfl⟩, rfl⟩ := ht
  have hkeys : (ms.map fun m => if m.1 = name then (name, Tree.list (ts.set i s')) else m).map
      Prod.fst = ms.map Prod.fst := by
    rw [List.map_map]
    apply List.map_congr_left
    intro m _
    by_cases hm : m.1 = name <;> simp [hm]
  obtain ⟨slot, hrecord, hgives, -⟩ := h.record?_varies (hkeys ▸ hms) hu
  obtain ⟨hi, hget⟩ := List.getElem?_eq_some_iff.1 hs
  have hmem : s' ∈ ts.set i s' := List.mem_set hi s'
  refine ⟨slot, hrecord, (hgives name (.list (ts.set i s')) ?_ _ hshape).default?_eq_none ?_ ?_⟩
  · obtain ⟨l₁, l₂, rfl, -⟩ := List.lookup_eq_some_iff.1 hlist
    simp
  · rw [hname]
    intro hnil
    cases List.ne_nil_of_mem hmem (Tree.list.inj (Option.some.inj hnil)).symm
  · apply h.listOf?_eq_none hmem
    apply hread s (List.mem_of_getElem? hs) s' hs'

end Dialect

end

end Servo.Document
