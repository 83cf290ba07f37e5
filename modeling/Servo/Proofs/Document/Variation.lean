import Mathlib.Data.List.Perm.Basic
import Servo.Proofs.Document.Embedding

/-!
# Variations of documents

A document varies when the members of its maps change their order, members with unknown keys are put
into its records, and members of its records are left out that have what their absence stands for
(`Shape.Varies`).  `Dialect.Carries.record?_varies` says what a record gives for its keys after
that: for each of them its value, varied, or nothing if the value was the one that its absence
stands for.
-/

namespace Servo.Document

namespace Tree

theorem record_inj {ms ns : List (String × Tree Scalar)} (h : record ms = record ns) :
  ms = ns
  := by
  apply List.map_injective_iff.2 _ (Tree.map.inj h)
  intro m n heq
  obtain ⟨hkey, ht⟩ := Prod.mk.inj heq
  apply Prod.ext (Scalar.text.inj hkey) ht

end Tree

/-! ### Variations -/

section

variable (absent : String → Option (Tree Scalar))

/-- Of the members of a record some are left out, whose values their absence stands for, and the
values of the others are related to new ones. -/
inductive Pruned (R : String → Tree Scalar → Tree Scalar → Prop) :
    List (String × Tree Scalar) → List (String × Tree Scalar) → Prop where
  | nil : Pruned R [] []
  | keep {key : String} {t u : Tree Scalar} {ms ns : List (String × Tree Scalar)}
    (h : R key t u) (rest : Pruned R ms ns) : Pruned R ((key, t) :: ms) ((key, u) :: ns)
  | leave {key : String} {t : Tree Scalar} {ms ns : List (String × Tree Scalar)}
    (h : absent key = some t) (rest : Pruned R ms ns) : Pruned R ((key, t) :: ms) ns

mutual

/-- The tree `u` is a variation of `t`: the members of maps stand in any order, and in records there
may be members with unknown keys, and those may be missing whose values their absence stands for. -/
def Shape.Varies : Shape → (t u : Tree Scalar) → Prop
  | .scalar, t, u => u = t
  | .list item, t, u => ∃ ts us, t = .list ts ∧ u = .list us
    ∧ List.Forall₂ (Shape.Varies item) ts us
  | .dictionary _, t, u => ∃ ms ns, t = .record ms ∧ u = .record ns ∧ ns.Perm ms
  | .record fields, t, u => ∃ ms kept unknown ns, t = .record ms ∧ u = .record ns
    ∧ Pruned absent (Fields.Varies fields) ms kept
    ∧ (∀ m ∈ unknown, m.1 ∉ fields.keys) ∧ ns.Perm (kept ++ unknown)

/-- The value `u` of a key of a record is a variation of `t`. -/
def Fields.Varies : Fields → (key : String) → (t u : Tree Scalar) → Prop
  | .nil, _, _, _ => False
  | .cons name shape rest, key, t, u =>
    if key = name then Shape.Varies shape t u else Fields.Varies rest key t u

end

variable {absent}

/-- The value of a key varies as its shape says. -/
theorem Fields.varies_ofList_iff {l : List (String × Shape)} {key : String} {t u : Tree Scalar} :
  (ofList l).Varies absent key t u ↔ ∃ shape, l.lookup key = some shape ∧ shape.Varies absent t u
  := by
  induction l with
  | nil => simp [ofList, Varies]
  | cons p rest ih =>
    obtain ⟨name, shape⟩ := p
    rw [ofList, Varies, List.lookup_cons]
    by_cases hkey : key = name
    · simp [hkey]
    · rw [if_neg hkey, beq_false_of_ne hkey, ih]

/-- Members with one key are left out or varied just as all members are. -/
theorem Pruned.filter {R : String → Tree Scalar → Tree Scalar → Prop}
    {ms ns : List (String × Tree Scalar)} (h : Pruned absent R ms ns) (key : String) :
  Pruned absent R (ms.filter (·.1 = key)) (ns.filter (·.1 = key))
  := by
  induction h with
  | nil => exact .nil
  | @keep name t u _ _ hu _ ih =>
    by_cases hkey : name = key
    · rw [List.filter_cons_of_pos (by simpa using hkey),
        List.filter_cons_of_pos (by simpa using hkey)]
      apply ih.keep hu
    · rw [List.filter_cons_of_neg (by simpa using hkey),
        List.filter_cons_of_neg (by simpa using hkey)]
      apply ih
  | @leave name t _ _ ht _ ih =>
    by_cases hkey : name = key
    · rw [List.filter_cons_of_pos (by simpa using hkey)]
      apply ih.leave ht
    · rw [List.filter_cons_of_neg (by simpa using hkey)]
      apply ih

/-- A member is one of those that are left out if its absence stands for its value. -/
theorem Pruned.insert {R : String → Tree Scalar → Tree Scalar → Prop} {key : String}
    {t : Tree Scalar} (hkey : absent key = some t) (ms₁ : List (String × Tree Scalar))
    {ms₂ ns : List (String × Tree Scalar)} (h : Pruned absent R (ms₁ ++ ms₂) ns) :
  Pruned absent R (ms₁ ++ (key, t) :: ms₂) ns
  := by
  induction ms₁ generalizing ns with
  | nil => apply h.leave hkey
  | cons m ms₁ ih =>
    cases h with
    | keep hu hrest => apply (ih hrest).keep hu
    | leave ht hrest => apply (ih hrest).leave ht

/-- Of one member at most, nothing is left or its value was related to a new one. -/
theorem Pruned.cases_toList {R : String → Tree Scalar → Tree Scalar → Prop} {key : String}
    {t? : Option (Tree Scalar)} {ns : List (String × Tree Scalar)}
    (h : Pruned absent R (t?.map (key, ·)).toList ns) :
  (ns = [] ∧ ∀ t, t? = some t → absent key = some t)
    ∨ ∃ t u, t? = some t ∧ R key t u ∧ ns = [(key, u)]
  := by
  cases t? with
  | none =>
    cases h
    exact .inl ⟨rfl, nofun⟩
  | some t =>
    cases h with
    | keep hu hrest =>
      cases hrest
      exact .inr ⟨t, _, rfl, hu, rfl⟩
    | leave ht hrest =>
      cases hrest
      refine .inl ⟨rfl, ?_⟩
      rintro _ ⟨⟩
      apply ht

/-- What a record that varied gives for a key with the value `t`: the value, varied, or nothing if
that stands for the value. -/
inductive Shape.Gives {α : Type} (absent : String → Option (Tree Scalar)) (shape : Shape)
    (f : Scalar → α) (key : String) (t : Tree Scalar) : Slot α → Prop where
  | given {u : Tree Scalar} (hu : shape.Varies absent t u) :
    Gives absent shape f key t (.given (u.relabel f))
  | omitted (h : absent key = some t) : Gives absent shape f key t .omitted

namespace Shape.Gives

variable {α β : Type} {shape : Shape} {f : Scalar → α} {key : String} {t : Tree Scalar}
  {slot : Slot α} {read? : Tree α → Option β} {b : β}

/-- A value for which nothing stands is read from each of its variations. -/
theorem required? (h : Gives absent shape f key t slot) (hkey : absent key = none)
    (hread : ∀ u, shape.Varies absent t u → read? (u.relabel f) = some b) :
  slot.required? read? = some b
  := by
  cases h with
  | given hu => apply hread _ hu
  | omitted h => rw [hkey] at h; cases h

/-- A value is read from each of its variations, and nothing stands only for its default. -/
theorem default? (h : Gives absent shape f key t slot)
    (hread : ∀ u, shape.Varies absent t u → read? (u.relabel f) = some b) {default : β}
    (hdefault : absent key = some t → default = b) :
  slot.default? read? default = some b
  := by
  cases h with
  | given hu => apply hread _ hu
  | omitted h => rw [← hdefault h]; rfl

end Shape.Gives

end

/-! ### Reading a varied record -/

namespace Dialect

variable {α : Type} {d : Dialect α} {f : Scalar → α}

/-- What the members of a map give for a key depends on those with this key only. -/
theorem slotOfMembers?_relabel (u? : Option (Tree Scalar)) {ns : List (String × Tree Scalar)}
    {key : String} (h : ns.filter (·.1 = key) = (u?.map (key, ·)).toList) :
  slotOfMembers? (ns.map fun m => (m.1, m.2.relabel f)) key
    = some (Slot.ofMember (u?.map (Tree.relabel f)))
  := by
  have hfilter : ns.filter ((fun m => decide (m.1 = key)) ∘ fun m => (m.1, m.2.relabel f))
      = (u?.map (key, ·)).toList := h
  rw [slotOfMembers?, List.filter_map, hfilter]
  cases u? with
  | none => rfl
  | some u => rfl

variable {absent : String → Option (Tree Scalar)}

/-- Members with a known key do not depend on the order and on those with unknown keys. -/
theorem filter_perm {fields : Fields} {kept unknown ns : List (String × Tree Scalar)}
    (hunknown : ∀ m ∈ unknown, m.1 ∉ fields.keys) (hperm : ns.Perm (kept ++ unknown)) {key : String}
    (hkey : key ∈ fields.keys) :
  (ns.filter (·.1 = key)).Perm (kept.filter (·.1 = key))
  := by
  have hnone : unknown.filter (·.1 = key) = [] := by
    apply List.filter_eq_nil_iff.2
    intro m hm hname
    apply hunknown m hm
    rw [of_decide_eq_true hname]
    apply hkey
  have hboth := hperm.filter (·.1 = key)
  rw [List.filter_append, hnone, List.append_nil] at hboth
  apply hboth

/-- What a record that varied gives for its keys: their values, varied, or nothing for those that
nothing stands for. -/
theorem Carries.record?_varies (h : d.Carries f) {l : List (String × Shape)}
    {ms : List (String × Tree Scalar)} (hms : (ms.map Prod.fst).Nodup) {u : Tree Scalar}
    (hu : (Shape.record (.ofList l)).Varies absent (.record ms) u) :
  ∃ slot, d.record? (.ofList l) (u.relabel f) = some slot
    ∧ (∀ key t, (key, t) ∈ ms → ∀ shape, l.lookup key = some shape →
      shape.Gives absent f key t (slot key))
    ∧ ∀ key ∈ l.map Prod.fst, key ∉ ms.map Prod.fst → slot key = .omitted
  := by
  obtain ⟨ms', kept, unknown, ns, hsame, rfl, hpruned, hunknown, hperm⟩ := hu
  obtain rfl := Tree.record_inj hsame
  have hgives : ∀ key ∈ (Fields.ofList l).keys, ∃ s,
      slotOfMembers? (ns.map fun m => (m.1, m.2.relabel f)) key = some s
        ∧ (∀ t, ms.lookup key = some t → ∀ shape, l.lookup key = some shape →
          shape.Gives absent f key t s)
        ∧ (ms.lookup key = none → s = .omitted) := by
    intro key hkey
    have hkept := filter_perm hunknown hperm hkey
    have hfilter := hpruned.filter key
    rw [filter_key_eq hms] at hfilter
    rcases hfilter.cases_toList with ⟨hnone, habsent⟩ | ⟨t, u, ht, hu, hone⟩
    · rw [hnone] at hkept
      refine ⟨_, slotOfMembers?_relabel none (List.perm_nil.1 hkept), ?_, fun _ => rfl⟩
      intro t ht _ _
      apply Shape.Gives.omitted (habsent t ht)
    · rw [hone] at hkept
      refine ⟨_, slotOfMembers?_relabel (some u) (List.perm_singleton.1 hkept), ?_, ?_⟩
      · intro t' ht' shape hshape
        obtain ⟨shape', hshape', hu⟩ := Fields.varies_ofList_iff.1 hu
        cases ht.symm.trans ht'
        cases hshape.symm.trans hshape'
        apply Shape.Gives.given hu
      · intro hnone
        cases ht.symm.trans hnone
  have : Nonempty (Slot α) := ⟨.omitted⟩
  choose! g hg hgiven homitted using hgives
  obtain ⟨slot, hrecord, hslots⟩ := h.record?_eq_some _ hg
  rw [Fields.keys_ofList] at hslots hgiven homitted
  refine ⟨slot, hrecord, ?_, ?_⟩
  · intro key t hm shape hshape
    have hkey : key ∈ l.map Prod.fst := by
      obtain ⟨l₁, l₂, rfl, -⟩ := List.lookup_eq_some_iff.1 hshape
      simp
    rw [hslots key hkey]
    apply hgiven key hkey t (lookup_of_mem hms hm) shape hshape
  · intro key hkey hnew
    rw [hslots key hkey]
    apply homitted key hkey (lookup_eq_none hnew)

/-- A list of values is read from its variations if each value is read from its own. -/
theorem Carries.listOf?_varies (h : d.Carries f) {β : Type} {item : Shape} {write : β → Tree Scalar}
    {read? : Tree α → Option β} {bs : List β}
    (hread : ∀ b ∈ bs, ∀ u, item.Varies absent (write b) u → read? (u.relabel f) = some b) :
  ∀ u, (Shape.list item).Varies absent (.list (bs.map write)) u →
    d.listOf? read? (u.relabel f) = some bs
  := by
  rintro _ ⟨ts, us, hts, rfl, hvaries⟩
  cases hts
  rw [h.listOf?]
  rw [List.forall₂_map_left_iff] at hvaries
  induction hvaries with
  | nil => rfl
  | cons hu _ ih =>
    rw [List.mapM_cons, hread _ List.mem_cons_self _ hu, ih]
    · rfl
    · intro b hb
      apply hread b (List.mem_cons_of_mem _ hb)

/-! ### Values of a varied record -/

section

variable {key : String} {slot : Slot α}

/-- A text that is required is read. -/
theorem Carries.required?_text (h : d.Carries f) {s : String}
    (hs : Shape.scalar.Gives absent f key (.text s) slot) (hkey : absent key = none) :
  slot.required? d.textOf? = some s
  := by
  apply hs.required? hkey
  rintro _ rfl
  rw [h.textOf?]

/-- A number that is required is read, if it is kept. -/
theorem Carries.required?_float (h : d.Carries f) {x : Float} (hx : d.Keeps f x)
    (hs : Shape.scalar.Gives absent f key (.float x) slot) (hkey : absent key = none) :
  slot.required? d.floatOf? = some x
  := by
  apply hs.required? hkey
  rintro _ rfl
  rw [h.floatOf?, hx.float]

/-- A number that is kept is read, if its absence stands for the default. -/
theorem Carries.default?_float (h : d.Carries f) {x default : Float} (hx : d.Keeps f x)
    (hs : Shape.scalar.Gives absent f key (.float x) slot)
    (hkey : absent key = some (.float default)) :
  slot.default? d.floatOf? default = some x
  := by
  apply hs.default?
  · rintro _ rfl
    rw [h.floatOf?, hx.float]
  · intro hdefault
    rw [hkey] at hdefault
    exact Scalar.float.inj (Tree.leaf.inj (Option.some.inj hdefault))

/-- A list is read if each of its values is, and its absence stands for the empty list. -/
theorem Carries.default?_list (h : d.Carries f) {β : Type} (write : β → Tree Scalar)
    {item : Shape} {read? : Tree α → Option β} {bs : List β}
    (hs : (Shape.list item).Gives absent f key (.list (bs.map write)) slot)
    (hkey : absent key = some (.list []))
    (hread : ∀ b ∈ bs, ∀ u, item.Varies absent (write b) u → read? (u.relabel f) = some b) :
  slot.default? (d.listOf? read?) [] = some bs
  := by
  apply hs.default? (h.listOf?_varies hread)
  intro hdefault
  rw [hkey] at hdefault
  have hnil := (Tree.list.inj (Option.some.inj hdefault)).symm
  rw [List.map_eq_nil_iff.1 hnil]

end

end Dialect

end Servo.Document
