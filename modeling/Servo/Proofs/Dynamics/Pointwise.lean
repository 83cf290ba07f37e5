import Servo.Dynamics
import Servo.Proofs.Store.Outline

/-!
# The dynamics work joint by joint

`Dynamics.moved` is what the dynamics make of the records of one joint.  `Dynamics.update`
does that to every joint and nothing else (`Dynamics.records?_update`), so the next velocity of
a joint depends on the records of that joint only, and the order of the joints does not matter
(`Dynamics.update_moves`).
-/

namespace Servo.Dynamics

/-- The records of a joint after it was moved. -/
def moved (d : Dynamics Float) (dt : Float) (r : Records) : Records :=
  match d.next? dt (r.axis? .velocity) (r.axis? .velocityCommand) (r.axis? .forceCommand) with
  | some v => r.setAxis .velocity v
  | none => r

theorem get?_moved {a : Attribute} (ha : a ≠ .axes .velocity) (d : Dynamics Float)
    (dt : Float) (r : Records) :
  (d.moved dt r).get? a = r.get? a
  := by
  rw [moved]
  split
  · apply Records.get?_setAxis_of_ne ha r _
  · rfl

theorem axis?_moved_of_velocityCommand {r : Records} {v : Float}
    (h : r.axis? .velocityCommand = some v) (d : Dynamics Float) (dt : Float) :
  (d.moved dt r).axis? .velocity = some v
  := by
  rw [moved, h, next?, Records.axis?_setAxis_self]

/-- A force accelerates a joint that has no command of its velocity. -/
theorem axis?_moved_of_forceCommand {r : Records} {f : Float}
    (hv : r.axis? .velocityCommand = none) (hf : r.axis? .forceCommand = some f)
    (d : Dynamics Float) {dt : Float} (hdt : 0 < dt) :
  (d.moved dt r).axis? .velocity
    = some (d.advance ((r.axis? .velocity).getD 0) f dt)
  := by
  rw [moved, hv, hf, next?, if_pos hdt, Records.axis?_setAxis_self]

theorem moved_of_idle {r : Records} (hv : r.axis? .velocityCommand = none)
    (hf : r.axis? .forceCommand = none) (d : Dynamics Float) (dt : Float) :
  d.moved dt r = r
  := by
  rw [moved, hv, hf, next?]

/-- The next velocity of a joint of a store is written to its records. -/
theorem write_of_has {s : Store} {e : Entity} (h : s.has e = true) (d : Dynamics Float)
    (dt : Float) :
  d.write dt s e = .ok (s.adjust e (d.moved dt))
  := by
  obtain ⟨r, hr⟩ := Option.isSome_iff_exists.1 h
  rw [write, Store.axis?_eq_of_records? hr, Store.axis?_eq_of_records? hr,
    Store.axis?_eq_of_records? hr]
  split
  next v hv =>
    apply Store.setAxis_eq_ok_iff.2
    use h
    apply Store.adjust_congr hr
    rw [moved, hv]
  next hnone =>
    have hkept : s.adjust e (d.moved dt) = s := by
      apply Store.adjust_eq_self hr
      rw [moved, hnone]
    rw [hkept]

/-- Moving a joint of a store changes its records. -/
theorem move_eq (d : Dynamics Float) (dt : Float) (s : Store) (e : Entity) :
  d.move dt s e = s.adjust e (d.moved dt)
  := by
  cases h : s.has e with
  | true => rw [move, write_of_has h]
  | false =>
    have hget : ∀ q, s.axis? e q = none := by
      intro q
      rw [Store.axis?, Store.get?, Store.records?_eq_none_iff.2 h, Option.bind_none,
        Option.bind_none]
    rw [move, write, hget, hget, hget, Store.adjust_of_not_has h]
    rfl

/-- The outline of a store stays when joints are moved. -/
theorem sameOutline_foldl_move (d : Dynamics Float) (dt : Float) (l : List Entity) (s : Store) :
  s.SameOutline (l.foldl (d.move dt) s)
  := by
  induction l generalizing s with
  | nil => apply Store.SameOutline.refl
  | cons e rest ih =>
    rw [List.foldl_cons, move_eq]
    refine Store.SameOutline.trans ?_ (ih _)
    apply Store.SameOutline.adjust
    intro r a ha
    apply get?_moved (ha .velocity) d dt r

/-- Every joint of a list without repetition is moved once, and no other entity is. -/
theorem records?_foldl_move (d : Dynamics Float) (dt : Float) {l : List Entity}
    (hl : l.Nodup) (s : Store) (e : Entity) :
  (l.foldl (d.move dt) s).records? e
    = if e ∈ l then (s.records? e).map (d.moved dt) else s.records? e
  := by
  induction l generalizing s with
  | nil => rw [List.foldl_nil, if_neg List.not_mem_nil]
  | cons e' rest ih =>
    obtain ⟨hnot, hrest⟩ := List.nodup_cons.1 hl
    rw [List.foldl_cons, move_eq, ih hrest, Store.records?_adjust]
    by_cases he : e = e'
    · subst he
      rw [if_neg hnot, if_pos rfl, if_pos List.mem_cons_self]
    · rw [if_neg he]
      by_cases hmem : e ∈ rest
      · rw [if_pos hmem, if_pos (List.mem_cons_of_mem e' hmem)]
      · have hcons : e ∉ e' :: rest := by
          intro h
          rcases List.mem_cons.1 h with h | h
          · apply he h
          · apply hmem h
        rw [if_neg hmem, if_neg hcons]

theorem nodup_withAttribute (s : Store) (a : Attribute) :
  (s.withAttribute a).Nodup
  := by
  rw [Store.withAttribute_eq]
  apply (Store.nodup_entities s).filter _

theorem sameOutline_update (d : Dynamics Float) (tick : Tick Float) (s : Store) :
  s.SameOutline (d.update tick s)
  := by
  rw [update]
  split
  · apply Store.SameOutline.refl
  · apply sameOutline_foldl_move

/-- Every joint is moved, and no other entity is. -/
theorem records?_update {tick : Tick Float} (h : tick.paused = false) (d : Dynamics Float)
    (s : Store) (e : Entity) :
  (d.update tick s).records? e
    = (s.records? e).map fun r => if r.joint.isSome then d.moved tick.dt r else r
  := by
  rw [update, if_neg (by simp [h]), records?_foldl_move d tick.dt (nodup_withAttribute s _)]
  cases hr : s.records? e with
  | none => simp
  | some r =>
    have hmem : e ∈ s.withAttribute .joint ↔ r.joint.isSome = true := by
      rw [Store.mem_withAttribute_iff, Store.hasRecord, Store.get?_eq_of_records? hr,
        Records.get?]
    by_cases hjoint : r.joint.isSome = true
    · rw [if_pos (hmem.2 hjoint), Option.map_some, Option.map_some, if_pos hjoint]
    · rw [if_neg (mt hmem.1 hjoint), Option.map_some, if_neg hjoint]

/-! ### The joints one by one -/

/-- The velocities of a joint for the axes behind the first one. -/
def further (s : Store) (joint : Entity) : List Float :=
  ((s.get? joint (.axes .velocity)).getD []).tail

/-- The store `t` is what `s` becomes when all joints are moved at once: the velocity of every joint
is told by its own records in `s`, and everything else stays. -/
structure Moves (d : Dynamics Float) (dt : Float) (s t : Store) : Prop where
  allocator : t.allocator = s.allocator
  entities : t.entities = s.entities
  other : ∀ (e : Entity) (a : Attribute), (a = .axes .velocity → s.hasRecord e .joint = false) →
    t.get? e a = s.get? e a
  /-- A command of the velocity goes before a force. -/
  told : ∀ (joint : Entity) (v : Float), s.hasRecord joint .joint = true →
    s.axis? joint .velocityCommand = some v →
    t.get? joint (.axes .velocity) = some (v :: further s joint)
  /-- A force acts only as time goes on; without a first axis the velocity was zero. -/
  forced : ∀ (joint : Entity) (f : Float), s.hasRecord joint .joint = true →
    s.axis? joint .velocityCommand = none → s.axis? joint .forceCommand = some f →
    let v := (s.axis? joint .velocity).getD 0
    t.get? joint (.axes .velocity)
      = some ((if 0 < dt then d.advance v f dt else v) :: further s joint)
  idle : ∀ joint : Entity, s.axis? joint .velocityCommand = none →
    s.axis? joint .forceCommand = none →
    t.get? joint (.axes .velocity) = s.get? joint (.axes .velocity)

/-- The next velocity of a joint is put in front of its further axes. -/
theorem get?_moved_velocity {d : Dynamics Float} {dt : Float} {r : Records} {v : Float}
    (h : d.next? dt (r.axis? .velocity) (r.axis? .velocityCommand) (r.axis? .forceCommand)
      = some v) :
  (d.moved dt r).get? (.axes .velocity)
    = some (v :: ((r.get? (.axes .velocity)).getD []).tail)
  := by
  rw [moved, h, Records.get?_setAxis_self, Axes.setFirst_eq]

section

variable {tick : Tick Float} (h : tick.paused = false) (d : Dynamics Float) (s : Store)
include h

/-- A record of a joint after a tick is one of the records of the joint once it was moved. -/
theorem get?_update_of_joint {joint : Entity} (hjoint : s.hasRecord joint .joint = true) :
  ∃ r, s.records? joint = some r
    ∧ ∀ a, (d.update tick s).get? joint a = (d.moved tick.dt r).get? a
  := by
  cases hr : s.records? joint with
  | none =>
    rw [Store.hasRecord, Store.get?, hr, Option.bind_none] at hjoint
    cases hjoint
  | some r =>
    have hjoint' : r.joint.isSome = true := by
      rwa [Store.hasRecord, Store.get?_eq_of_records? hr] at hjoint
    use r, rfl
    intro a
    rw [Store.get?, records?_update h, hr, Option.map_some, if_pos hjoint', Option.bind_some]

/-- What is no joint keeps its records. -/
theorem records?_update_of_not_joint {e : Entity} (hjoint : s.hasRecord e .joint = false) :
  (d.update tick s).records? e = s.records? e
  := by
  rw [records?_update h]
  cases hr : s.records? e with
  | none => rfl
  | some r =>
    have hnone : ¬ r.joint.isSome = true := by
      rw [Store.hasRecord, Store.get?_eq_of_records? hr, Records.get?] at hjoint
      rw [hjoint]
      exact Bool.false_ne_true
    rw [Option.map_some, if_neg hnone]

/-- The next velocity of a joint is told by its records. -/
theorem get?_update_velocity {joint : Entity} {v : Float}
    (hjoint : s.hasRecord joint .joint = true)
    (hnext : d.next? tick.dt (s.axis? joint .velocity) (s.axis? joint .velocityCommand)
      (s.axis? joint .forceCommand) = some v) :
  (d.update tick s).get? joint (.axes .velocity) = some (v :: further s joint)
  := by
  obtain ⟨r, hr, hget⟩ := get?_update_of_joint h d s hjoint
  rw [Store.axis?_eq_of_records? hr, Store.axis?_eq_of_records? hr,
    Store.axis?_eq_of_records? hr] at hnext
  rw [hget, get?_moved_velocity hnext, further, Store.get?_eq_of_records? hr]

/-- In a tick all joints are moved at once. -/
theorem moves_update :
  d.Moves tick.dt s (d.update tick s)
  := by
  have houtline := sameOutline_update d tick s
  constructor
  case allocator => apply houtline.allocator
  case entities => apply houtline.entities
  case other =>
    intro e a ha
    cases hjoint : s.hasRecord e .joint with
    | true =>
      obtain ⟨r, hr, hget⟩ := get?_update_of_joint h d s hjoint
      rw [hget, Store.get?_eq_of_records? hr]
      apply get?_moved
      intro hvelocity
      cases hjoint.symm.trans (ha hvelocity)
    | false => rw [Store.get?, records?_update_of_not_joint h d s hjoint, Store.get?]
  case told =>
    intro joint v hjoint hv
    apply get?_update_velocity h d s hjoint
    rw [hv, next?]
  case forced =>
    intro joint f hjoint hv hf
    apply get?_update_velocity h d s hjoint
    rw [hv, hf, next?]
  case idle =>
    intro joint hv hf
    cases hjoint : s.hasRecord joint .joint with
    | true =>
      obtain ⟨r, hr, hget⟩ := get?_update_of_joint h d s hjoint
      rw [Store.axis?_eq_of_records? hr] at hv hf
      rw [hget, moved_of_idle hv hf, Store.get?_eq_of_records? hr]
    | false => rw [Store.get?, records?_update_of_not_joint h d s hjoint, Store.get?]

/-- In whatever order the joints are moved, the store is the same, and no write is refused. -/
theorem foldl_move_perm {order : List Entity} (horder : order.Perm (s.withAttribute .joint)) :
  order.foldl (d.move tick.dt) s = d.update tick s
    ∧ ∀ before joint after, order = before ++ joint :: after →
      ∃ t, d.write tick.dt (before.foldl (d.move tick.dt) s) joint = .ok t
  := by
  have houtline := sameOutline_foldl_move d tick.dt
  constructor
  · have hupdate : d.update tick s = (s.withAttribute .joint).foldl (d.move tick.dt) s := by
      rw [update, if_neg (by simp [h])]
    have hnodup := nodup_withAttribute s .joint
    have hsame := (houtline (s.withAttribute .joint) s)
    rw [hupdate]
    apply Store.ext_records?
    · rw [(houtline order s).allocator, hsame.allocator]
    · rw [(houtline order s).entities, hsame.entities]
    · intro e
      rw [records?_foldl_move d tick.dt (horder.nodup_iff.2 hnodup),
        records?_foldl_move d tick.dt hnodup]
      simp only [horder.mem_iff]
  · rintro before joint after rfl
    have hmem : joint ∈ s.withAttribute .joint := by
      apply horder.subset
      apply List.mem_append_right _ List.mem_cons_self
    have hhas : (before.foldl (d.move tick.dt) s).has joint = true := by
      obtain ⟨v, hv⟩ := Option.isSome_iff_exists.1 (Store.mem_withAttribute_iff.1 hmem)
      rw [(houtline before s).has, Store.has_of_get? hv]
    exact ⟨_, write_of_has hhas d tick.dt⟩

end

/-- A paused tick changes nothing, and in any other one all joints are moved at once.  They may as
well be moved one after the other in any order, and no write is refused on the way. -/
theorem update_moves (d : Dynamics Float) (tick : Tick Float) (s : Store) :
  (tick.paused = true → d.update tick s = s)
    ∧ (tick.paused = false → d.Moves tick.dt s (d.update tick s)
      ∧ ∀ order : List Entity, order.Perm (s.withAttribute .joint) →
        order.foldl (d.move tick.dt) s = d.update tick s
          ∧ ∀ before joint after, order = before ++ joint :: after →
            ∃ t, d.write tick.dt (before.foldl (d.move tick.dt) s) joint = .ok t)
  := by
  constructor
  · intro h
    rw [update, if_pos h]
  · intro h
    exact ⟨moves_update h d s, fun _ horder => foldl_move_perm h d s horder⟩

/-- The left wheel is told a velocity and has a second axis.  The right one is pushed, and its
velocity has no axes yet. -/
def twoWheels : Store where
  allocator := ⟨2⟩
  entries := [
    (⟨0, Entity.capacity_pos⟩, {
      joint := some (), velocity := some [1, 7], velocityCommand := some [3],
      forceCommand := some [2] }),
    (⟨1, by decide⟩, { joint := some (), velocity := some [], forceCommand := some [2] })]
  increasing := List.pairwise_pair.2 Nat.zero_lt_one
  issued := List.forall_mem_cons.2 ⟨Nat.zero_lt_two, List.forall_mem_singleton.2 Nat.one_lt_two⟩

/-- Both wheels are moved, in either order. -/
theorem update_moves_twoWheels :
  let left : Entity := ⟨0, Entity.capacity_pos⟩
  let right : Entity := ⟨1, by decide⟩
  let d : Dynamics Float := ⟨4, 0⟩
  let t := d.update (.first 0.5) twoWheels
  t.get? left (.axes .velocity) = some [3, 7] ∧ t.get? right (.axes .velocity) = some [0.25]
    ∧ [right, left].foldl (d.move 0.5) twoWheels = t
  := by
  intro left right d t
  obtain ⟨hmoves, horders⟩ := (update_moves d (.first 0.5) twoWheels).2 rfl
  have hforced : t.get? right (.axes .velocity)
      = some [if (0 : Float) < 0.5 then d.advance 0 2 0.5 else 0] :=
    hmoves.forced right 2 rfl rfl rfl
  have hadvance : (if (0 : Float) < 0.5 then d.advance 0 2 0.5 else 0) = 0.25 := by
    decide +kernel
  rw [hadvance] at hforced
  exact ⟨hmoves.told left 3 rfl rfl, hforced, (horders [right, left] (.swap ..)).1⟩

end Servo.Dynamics
