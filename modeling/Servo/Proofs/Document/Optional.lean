import Servo.Proofs.Document.Deletion
import Servo.Proofs.Document.World
import Servo.Proofs.Json.Reading
import Servo.Proofs.Yaml.Reading

/-!
# Members that may be left out

`optional_members` says what the document of a world may leave out.  The members that hold their
default (`absent`) may be missing, and the order of members and unknown members mean nothing: the
same world is read.  The velocity of a joint and the physics may be missing too, but then they are
gone.  Nothing else may be missing (`Required`).
-/

namespace Servo

open Document

namespace World

/-- The value for which the absence of a member stands in a document. -/
def absent : String → Option (Document.Tree Scalar)
  | "physics" => some ({} : Physics).toTree
  | "inertia" => some (.float 1)
  | "damping" => some (.float 0)
  | "models" | "commands" | "joints" | "plugins" => some (.list [])
  | "params" => some (.record [])
  | _ => none

section

variable {α : Type} {d : Dialect α} {f : Scalar → α}

/-- Physics is read from each variation of its document. -/
theorem Physics.ofTree?_varies (h : d.Carries f) {p : Physics} (hinertia : d.Keeps f p.inertia)
    (hdamping : d.Keeps f p.damping) :
  ∀ u, (Shape.record fields).Varies absent p.toTree u → Physics.ofTree? d (u.relabel f) = some p
  := by
  intro u hu
  obtain ⟨slot, hrecord, hgives, -⟩ := h.record?_varies (by simp) hu
  have hi : (slot "inertia").default? d.floatOf? 1 = some p.inertia := by
    apply h.default?_float hinertia (hgives "inertia" _ (by simp) .scalar rfl) rfl
  have hd : (slot "damping").default? d.floatOf? 0 = some p.damping := by
    apply h.default?_float hdamping (hgives "damping" _ (by simp) .scalar rfl) rfl
  rw [ofTree?, fields, hrecord]
  simp only [Option.bind_eq_bind, Option.bind_some, hi, hd]
  rfl

/-- Physics is known from its document. -/
theorem Physics.toTree_injective {p q : Physics} (h : p.toTree = q.toTree) :
  p = q
  := by
  obtain ⟨inertia, damping⟩ := p
  have hmembers := Tree.record_inj h
  simp only [Tree.float, List.cons.injEq, Prod.mk.injEq, Tree.leaf.injEq, Scalar.float.injEq,
    true_and, and_true] at hmembers
  rw [Physics.mk.injEq]
  apply hmembers

/-- A joint is a record with its name and with its velocity, if it has one. -/
theorem Joint.toTree_eq (j : Joint) :
  j.toTree = .record (("name", .text j.name) ::
    (j.initialVelocity.map fun v => ("initial_velocity", Tree.float v)).toList)
  := by
  obtain ⟨name, velocity⟩ := j
  cases velocity <;> rfl

/-- A joint is read from each variation of its document. -/
theorem Joint.ofTree?_varies (h : d.Carries f) {j : Joint}
    (hvelocity : ∀ v, j.initialVelocity = some v → d.Keeps f v) :
  ∀ u, (Shape.record fields).Varies absent j.toTree u → Joint.ofTree? d (u.relabel f) = some j
  := by
  intro u hu
  obtain ⟨name, velocity⟩ := j
  rw [toTree_eq] at hu
  obtain ⟨slot, hrecord, hgives, homitted⟩ := h.record?_varies (by cases velocity <;> simp) hu
  have hn : (slot "name").required? d.textOf? = some name := by
    apply h.required?_text (hgives "name" _ (by simp) .scalar rfl) rfl
  have hv : (slot "initial_velocity").default? (d.maybe? d.floatOf?) none = some velocity := by
    cases velocity with
    | none =>
      rw [homitted "initial_velocity" (by simp) (by simp)]
      rfl
    | some v =>
      have hkeep := hvelocity v rfl
      apply (hgives "initial_velocity" (.float v) (by simp) .scalar rfl).default?
      · rintro _ rfl
        simp only [Dialect.maybe?, h.absentOf?, h.floatOf?, hkeep.present, hkeep.float]
        rfl
      · intro hdefault
        cases hdefault
  rw [ofTree?, fields, hrecord]
  simp only [Option.bind_eq_bind, Option.bind_some, hn, hv]
  rfl

/-- Parameters are read from their document with the entries in any order. -/
theorem paramsOfTree?_varies (h : d.Carries f) {p : Plugin}
    (hp : ∀ x ∈ p.numbers, d.Keeps f x) :
  ∀ u, Params.shape.Varies absent (Params.codec.write p.params) u →
    Params.ofTree? d (u.relabel f) = some p.params
  := by
  rintro _ ⟨ms, ns, hms, rfl, hperm⟩
  obtain rfl := Tree.record_inj hms
  have hread : (p.params.entries.map fun e => (e.1, Tree.leaf e.2.scalar)).mapM
      (fun m => (Params.Value.ofTree? d (m.2.relabel f)).map (m.1, ·)) = some p.params.entries := by
    rw [List.mapM_map, ← entries_of_keeps h hp]
    simp only [Function.comp_def, Params.Value.ofTree?, h.resolve]
    rfl
  obtain ⟨entries, hentries, hsame⟩ := mapM_perm hperm.symm hread
  rw [paramsOfTree?_record h, hentries, Option.bind_some, Dictionary.ofList_of_perm hsame]

/-- A plugin is read from each variation of its document. -/
theorem Plugin.ofTree?_varies (h : d.Carries f) {p : Plugin}
    (hp : ∀ x ∈ p.numbers, d.Keeps f x) :
  ∀ u, (Shape.record fields).Varies absent p.toTree u → Plugin.ofTree? d (u.relabel f) = some p
  := by
  intro u hu
  obtain ⟨slot, hrecord, hgives, -⟩ := h.record?_varies (by simp) hu
  have hkind : (slot "type").required?
      (d.oneOf? [(PluginKind.jointController.name, PluginKind.jointController)]) = some p.kind := by
    apply (hgives "type" (.text p.kind.name) (by simp) .scalar rfl).required? rfl
    rintro _ rfl
    rw [Dialect.oneOf?, h.wordOf?]
    cases p.kind
    rfl
  have hparams : (slot "params").default? (Params.ofTree? d) .empty = some p.params := by
    apply (hgives "params" (Params.codec.write p.params) (by simp) Params.shape rfl).default?
    · apply paramsOfTree?_varies h hp
    · intro hdefault
      have hnone := Tree.record_inj (Option.some.inj hdefault)
      obtain ⟨kind, ⟨entries, hincreasing⟩⟩ := p
      cases List.map_eq_nil_iff.1 hnone.symm
      rfl
  rw [ofTree?, fields, hrecord]
  simp only [Option.bind_eq_bind, Option.bind_some, hkind, hparams]
  rfl

/-- A model is read from each variation of its document. -/
theorem Model.ofTree?_varies (h : d.Carries f) {m : Model}
    (hjoints : ∀ x ∈ m.joints.filterMap Joint.initialVelocity, d.Keeps f x)
    (hplugins : ∀ x ∈ m.plugins.flatMap Plugin.numbers, d.Keeps f x) :
  ∀ u, (Shape.record fields).Varies absent m.toTree u → Model.ofTree? d (u.relabel f) = some m
  := by
  intro u hu
  obtain ⟨slot, hrecord, hgives, -⟩ := h.record?_varies (by simp) hu
  have hn : (slot "name").required? d.textOf? = some m.name := by
    apply h.required?_text (hgives "name" _ (by simp) .scalar rfl) rfl
  have hj : (slot "joints").default? (d.listOf? (Joint.ofTree? d)) [] = some m.joints := by
    apply h.default?_list Joint.toTree (hgives "joints" _ (by simp) _ rfl) rfl
    intro j hj
    apply Joint.ofTree?_varies h
    intro v hv
    apply hjoints v (List.mem_filterMap.2 ⟨j, hj, hv⟩)
  have hp : (slot "plugins").default? (d.listOf? (Plugin.ofTree? d)) [] = some m.plugins := by
    apply h.default?_list Plugin.toTree (hgives "plugins" _ (by simp) _ rfl) rfl
    intro p hp
    apply Plugin.ofTree?_varies h
    intro x hx
    apply hplugins x (List.mem_flatMap.2 ⟨p, hp, hx⟩)
  rw [ofTree?, fields, hrecord]
  simp only [Option.bind_eq_bind, Option.bind_some, hn, hj, hp]
  rfl

/-- A command is read from each variation of its document. -/
theorem Command.ofTree?_varies (h : d.Carries f) {c : Command} (htime : d.Keeps f c.time)
    (hvalue : d.Keeps f c.value) :
  ∀ u, (Shape.record fields).Varies absent c.toTree u → Command.ofTree? d (u.relabel f) = some c
  := by
  intro u hu
  obtain ⟨slot, hrecord, hgives, -⟩ := h.record?_varies (by simp) hu
  have ht : (slot "time").required? d.floatOf? = some c.time := by
    apply h.required?_float htime (hgives "time" _ (by simp) .scalar rfl) rfl
  have hto : (slot "topic").required? d.textOf? = some c.topic := by
    apply h.required?_text (hgives "topic" _ (by simp) .scalar rfl) rfl
  have hv : (slot "value").required? d.floatOf? = some c.value := by
    apply h.required?_float hvalue (hgives "value" _ (by simp) .scalar rfl) rfl
  rw [ofTree?, fields, hrecord]
  simp only [Option.bind_eq_bind, Option.bind_some, ht, hto, hv]
  rfl

/-- A world whose numbers are kept is read from each variation of its document. -/
theorem ofTree?_varies (h : d.Carries f) {w : World} (hnumbers : ∀ x ∈ w.numbers, d.Keeps f x) :
  ∀ u, (Shape.record fields).Varies absent w.toTree u → ofTree? d (u.relabel f) = some w
  := by
  intro u hu
  simp only [numbers, boundNumbers, freeNumbers, List.mem_append] at hnumbers
  obtain ⟨slot, hrecord, hgives, -⟩ := h.record?_varies (by simp) hu
  have hv : (slot "version").required? d.naturalOf? = some w.version := by
    apply (hgives "version" (.leaf (.int w.version.toNat)) (by simp) .scalar rfl).required? rfl
    rintro _ rfl
    rw [h.naturalOf?]
  have hn : (slot "name").required? d.textOf? = some w.name := by
    apply h.required?_text (hgives "name" _ (by simp) .scalar rfl) rfl
  have hp : (slot "physics").default? (Physics.ofTree? d) {} = some w.physics := by
    apply (hgives "physics" w.physics.toTree (by simp) _ rfl).default?
    · apply Physics.ofTree?_varies h <;> apply hnumbers <;> simp
    · intro hdefault
      apply Physics.toTree_injective (Option.some.inj hdefault)
  have hm : (slot "models").default? (d.listOf? (Model.ofTree? d)) [] = some w.models := by
    apply h.default?_list Model.toTree (hgives "models" _ (by simp) _ rfl) rfl
    intro m hm
    apply Model.ofTree?_varies h
    · intro x hx
      apply hnumbers x (.inl (.inr (.inl (List.mem_flatMap.2 ⟨m, hm, hx⟩))))
    · intro x hx
      apply hnumbers x (.inr (.inl (List.mem_flatMap.2 ⟨m, hm, hx⟩)))
  have hc : (slot "commands").default? (d.listOf? (Command.ofTree? d)) [] = some w.commands := by
    apply h.default?_list Command.toTree (hgives "commands" _ (by simp) _ rfl) rfl
    intro c hc
    apply Command.ofTree?_varies h
    · apply hnumbers c.time (.inl (.inr (.inr (List.mem_map_of_mem hc))))
    · apply hnumbers c.value (.inr (.inr (List.mem_map_of_mem hc)))
  rw [ofTree?, fields, hrecord]
  simp only [Option.bind_eq_bind, Option.bind_some, hv, hn, hp, hm, hc]
  rfl

/-! ### Members that are required -/

/-- A joint without a name is not read. -/
theorem Joint.ofTree?_without (h : d.Carries f) (j : Joint) :
  ∀ t, j.toTree.without? "name" [] = some t →
    ∀ u, (Shape.record fields).Varies absent t u → Joint.ofTree? d (u.relabel f) = none
  := by
  intro t ht u hu
  rw [toTree_eq] at ht
  obtain ⟨slot, hrecord, homitted⟩ :=
    h.record?_erased (by cases j.initialVelocity <;> simp) (by simp) ht hu
  rw [ofTree?, fields, hrecord]
  simp only [Option.bind_eq_bind, Option.bind_some, homitted, Slot.required?, Option.bind_none]

/-- A plugin without a type is not read. -/
theorem Plugin.ofTree?_without (h : d.Carries f) (p : Plugin) :
  ∀ t, p.toTree.without? "type" [] = some t →
    ∀ u, (Shape.record fields).Varies absent t u → Plugin.ofTree? d (u.relabel f) = none
  := by
  intro t ht u hu
  obtain ⟨slot, hrecord, homitted⟩ := h.record?_erased (by simp) (by simp) ht hu
  rw [ofTree?, fields, hrecord]
  simp only [Option.bind_eq_bind, Option.bind_some, homitted, Slot.required?, Option.bind_none]

/-- A command without its time, its topic or its value is not read. -/
theorem Command.ofTree?_without (h : d.Carries f) (c : Command) {key : String}
    (hkey : key ∈ ["time", "topic", "value"]) :
  ∀ t, c.toTree.without? key [] = some t →
    ∀ u, (Shape.record fields).Varies absent t u → Command.ofTree? d (u.relabel f) = none
  := by
  intro t ht u hu
  obtain ⟨slot, hrecord, homitted⟩ := h.record?_erased (by simp) (by simpa using hkey) ht hu
  rw [ofTree?, fields, hrecord]
  simp only [List.mem_cons, List.not_mem_nil, or_false] at hkey
  rcases hkey with rfl | rfl | rfl <;>
    simp only [Option.bind_eq_bind, Option.bind_some, homitted, Slot.required?, Option.bind_none,
      Option.bind_fun_none]

/-- A model without a name is not read. -/
theorem Model.ofTree?_without (h : d.Carries f) (m : Model) :
  ∀ t, m.toTree.without? "name" [] = some t →
    ∀ u, (Shape.record fields).Varies absent t u → Model.ofTree? d (u.relabel f) = none
  := by
  intro t ht u hu
  obtain ⟨slot, hrecord, homitted⟩ := h.record?_erased (by simp) (by simp) ht hu
  rw [ofTree?, fields, hrecord]
  simp only [Option.bind_eq_bind, Option.bind_some, homitted, Slot.required?, Option.bind_none]

/-- A model with a joint without a name is not read. -/
theorem Model.ofTree?_withoutJointName (h : d.Carries f) (m : Model) (k : Nat) :
  ∀ t, m.toTree.without? "name" [.member "joints", .item k] = some t →
    ∀ u, (Shape.record fields).Varies absent t u → Model.ofTree? d (u.relabel f) = none
  := by
  intro t ht u hu
  obtain ⟨slot, hrecord, hnone⟩ := h.record?_without (Joint.ofTree? d) (by simp) rfl rfl rfl
    (List.forall_mem_map.2 fun j _ => Joint.ofTree?_without h j) ht hu
  rw [ofTree?, fields, hrecord]
  simp only [Option.bind_eq_bind, Option.bind_some, hnone, Option.bind_none, Option.bind_fun_none]

/-- A model with a plugin without a type is not read. -/
theorem Model.ofTree?_withoutPluginType (h : d.Carries f) (m : Model) (k : Nat) :
  ∀ t, m.toTree.without? "type" [.member "plugins", .item k] = some t →
    ∀ u, (Shape.record fields).Varies absent t u → Model.ofTree? d (u.relabel f) = none
  := by
  intro t ht u hu
  obtain ⟨slot, hrecord, hnone⟩ := h.record?_without (Plugin.ofTree? d) (by simp) rfl rfl rfl
    (List.forall_mem_map.2 fun p _ => Plugin.ofTree?_without h p) ht hu
  rw [ofTree?, fields, hrecord]
  simp only [Option.bind_eq_bind, Option.bind_some, hnone, Option.bind_none, Option.bind_fun_none]

/-- A world without its version or its name is not read. -/
theorem ofTree?_without (h : d.Carries f) (w : World) {key : String}
    (hkey : key ∈ ["version", "name"]) :
  ∀ t, w.toTree.without? key [] = some t →
    ∀ u, (Shape.record fields).Varies absent t u → ofTree? d (u.relabel f) = none
  := by
  intro t ht u hu
  obtain ⟨slot, hrecord, homitted⟩ := h.record?_erased (by simp) (by revert hkey; simp; tauto) ht hu
  rw [ofTree?, fields, hrecord]
  simp only [List.mem_cons, List.not_mem_nil, or_false] at hkey
  rcases hkey with rfl | rfl <;>
    simp only [Option.bind_eq_bind, Option.bind_some, homitted, Slot.required?, Option.bind_none,
      Option.bind_fun_none]

/-- A world is not read if a member is deleted without which no model is read. -/
theorem ofTree?_withoutInModel (h : d.Carries f) (w : World) {key : String} {path : List Step}
    (hmodels : ∀ m ∈ w.models, ∀ t, m.toTree.without? key path = some t →
      ∀ u, (Shape.record Model.fields).Varies absent t u → Model.ofTree? d (u.relabel f) = none)
    (i : Nat) :
  ∀ t, w.toTree.without? key (.member "models" :: .item i :: path) = some t →
    ∀ u, (Shape.record fields).Varies absent t u → ofTree? d (u.relabel f) = none
  := by
  intro t ht u hu
  obtain ⟨slot, hrecord, hnone⟩ := h.record?_without (Model.ofTree? d) (by simp) rfl rfl rfl
    (List.forall_mem_map.2 hmodels) ht hu
  rw [ofTree?, fields, hrecord]
  simp only [Option.bind_eq_bind, Option.bind_some, hnone, Option.bind_none, Option.bind_fun_none]

/-- A world is not read if a member is deleted from one of its commands. -/
theorem ofTree?_withoutInCommand (h : d.Carries f) (w : World) {key : String}
    (hkey : key ∈ ["time", "topic", "value"]) (i : Nat) :
  ∀ t, w.toTree.without? key [.member "commands", .item i] = some t →
    ∀ u, (Shape.record fields).Varies absent t u → ofTree? d (u.relabel f) = none
  := by
  intro t ht u hu
  obtain ⟨slot, hrecord, hnone⟩ := h.record?_without (Command.ofTree? d) (by simp) rfl rfl
    rfl (List.forall_mem_map.2 fun c _ => Command.ofTree?_without h c hkey) ht hu
  rw [ofTree?, fields, hrecord]
  simp only [Option.bind_eq_bind, Option.bind_some, hnone, Option.bind_none, Option.bind_fun_none]

/-- The members that may not be left out, each with the path to its record. -/
inductive Required (w : World) : List Step → String → Prop where
  | version : Required w [] "version"
  | name : Required w [] "name"
  | modelName {i : Nat} {m : Model} (hm : w.models[i]? = some m) :
    Required w [.member "models", .item i] "name"
  | jointName {i k : Nat} {m : Model} {j : Joint} (hm : w.models[i]? = some m)
    (hj : m.joints[k]? = some j) :
    Required w [.member "models", .item i, .member "joints", .item k] "name"
  | pluginType {i k : Nat} {m : Model} {p : Plugin} (hm : w.models[i]? = some m)
    (hp : m.plugins[k]? = some p) :
    Required w [.member "models", .item i, .member "plugins", .item k] "type"
  | command {i : Nat} {c : Command} (hc : w.commands[i]? = some c) {key : String}
    (hkey : key ∈ ["time", "topic", "value"]) : Required w [.member "commands", .item i] key

/-- The required members of a world are in its document. -/
theorem Required.exists_without? {w : World} {path : List Step} {key : String}
    (hkey : w.Required path key) :
  ∃ t, w.toTree.without? key path = some t
  := by
  cases hkey with
  | version => exact ⟨_, Tree.without?_nil _⟩
  | name => exact ⟨_, Tree.without?_nil _⟩
  | modelName hm => exact ⟨_, Tree.without?_member_item rfl hm (Tree.without?_nil _)⟩
  | jointName hm hj =>
    exact ⟨_, Tree.without?_member_item rfl hm
      (Tree.without?_member_item rfl hj (Tree.without?_nil _))⟩
  | pluginType hm hp =>
    exact ⟨_, Tree.without?_member_item rfl hm
      (Tree.without?_member_item rfl hp (Tree.without?_nil _))⟩
  | @command i c hc key hkey =>
    have hdeleted : ∃ t, c.toTree.without? key [] = some t := by
      refine ⟨_, (Tree.without?_nil _).trans (if_pos ?_)⟩
      simpa using hkey
    obtain ⟨t, ht⟩ := hdeleted
    exact ⟨_, Tree.without?_member_item rfl hc ht⟩

/-- Without a required member a world is not read. -/
theorem Required.ofTree?_without (h : d.Carries f) {w : World} {path : List Step} {key : String}
    (hkey : w.Required path key) :
  ∀ t, w.toTree.without? key path = some t →
    ∀ u, (Shape.record fields).Varies absent t u → ofTree? d (u.relabel f) = none
  := by
  cases hkey with
  | version => apply World.ofTree?_without h w (by simp)
  | name => apply World.ofTree?_without h w (by simp)
  | modelName _ =>
    apply ofTree?_withoutInModel h w
    intro m _
    apply Model.ofTree?_without h m
  | jointName _ _ =>
    apply ofTree?_withoutInModel h w
    intro m _
    apply Model.ofTree?_withoutJointName h m
  | pluginType _ _ =>
    apply ofTree?_withoutInModel h w
    intro m _
    apply Model.ofTree?_withoutPluginType h m
  | command _ hkey => apply ofTree?_withoutInCommand h w hkey

/-! ### Velocities and physics -/

/-- A model with a joint that has no velocity. -/
def Model.withoutVelocity (m : Model) (k : Nat) : Model :=
  { m with joints := m.joints.modify k fun j => { j with initialVelocity := none } }

/-- A world with a joint that has no velocity. -/
def withoutVelocity (w : World) (i k : Nat) : World :=
  { w with models := w.models.modify i fun m => m.withoutVelocity k }

theorem modify_eq_set {β : Type} {l : List β} {i : Nat} {b : β} (hb : l[i]? = some b) (g : β → β) :
  l.modify i g = l.set i (g b)
  := by
  rw [List.modify_eq_set_getElem?, hb]
  rfl

theorem Joint.without?_velocity {j : Joint} {v : Float} (hv : j.initialVelocity = some v) :
  j.toTree.without? "initial_velocity" [] = some { j with initialVelocity := none }.toTree
  := by
  rw [toTree_eq, hv, Tree.without?_nil]
  rfl

theorem Model.without?_velocity {m : Model} {k : Nat} {j : Joint} (hj : m.joints[k]? = some j)
    {v : Float} (hv : j.initialVelocity = some v) :
  m.toTree.without? "initial_velocity" [.member "joints", .item k]
    = some (m.withoutVelocity k).toTree
  := by
  rw [withoutVelocity, modify_eq_set hj]
  apply (Tree.without?_member_item rfl hj (Joint.without?_velocity hv)).trans
  rw [← List.map_set]
  rfl

theorem without?_velocity {w : World} {i k : Nat} {m : Model} (hm : w.models[i]? = some m)
    {j : Joint} (hj : m.joints[k]? = some j) {v : Float} (hv : j.initialVelocity = some v) :
  w.toTree.without? "initial_velocity" [.member "models", .item i, .member "joints", .item k]
    = some (w.withoutVelocity i k).toTree
  := by
  rw [withoutVelocity, modify_eq_set hm]
  apply (Tree.without?_member_item rfl hm (Model.without?_velocity hj hv)).trans
  rw [← List.map_set]
  rfl

/-- An element of a list in which one is modified was in the list, modified or not. -/
theorem mem_modify {β : Type} {l : List β} {i : Nat} {g : β → β} {b : β} (h : b ∈ l.modify i g) :
  ∃ a ∈ l, b = a ∨ b = g a
  := by
  obtain ⟨n, hn⟩ := List.mem_iff_getElem?.1 h
  rw [List.getElem?_modify, Option.map_eq_map, Option.map_eq_some_iff] at hn
  obtain ⟨a, ha, rfl⟩ := hn
  refine ⟨a, List.mem_of_getElem? ha, ?_⟩
  by_cases hi : i = n
  · exact .inr (if_pos hi)
  · exact .inl (if_neg hi)

/-- Without the velocity of a joint, a model has its other velocities. -/
theorem Model.mem_velocities_withoutVelocity {m : Model} {k : Nat} {x : Float}
    (hx : x ∈ (m.withoutVelocity k).joints.filterMap Joint.initialVelocity) :
  x ∈ m.joints.filterMap Joint.initialVelocity
  := by
  obtain ⟨j, hj, hx⟩ := List.mem_filterMap.1 hx
  obtain ⟨j', hj', rfl | rfl⟩ := mem_modify hj
  · apply List.mem_filterMap.2 ⟨j, hj', hx⟩
  · cases hx

/-- Without the velocity of a joint, a world has its other numbers. -/
theorem mem_numbers_withoutVelocity {w : World} {i k : Nat} {x : Float}
    (hx : x ∈ (w.withoutVelocity i k).numbers) :
  x ∈ w.numbers
  := by
  simp only [numbers, boundNumbers, freeNumbers, List.mem_append, List.mem_flatMap] at hx ⊢
  rcases hx with (hx | ⟨m, hm, hx⟩ | hx) | ⟨m, hm, hx⟩ | hx
  · exact .inl (.inl hx)
  · obtain ⟨m', hm', rfl | rfl⟩ := mem_modify hm
    · exact .inl (.inr (.inl ⟨m, hm', hx⟩))
    · exact .inl (.inr (.inl ⟨m', hm', Model.mem_velocities_withoutVelocity hx⟩))
  · exact .inl (.inr (.inr hx))
  · obtain ⟨m', hm', rfl | rfl⟩ := mem_modify hm
    · exact .inr (.inl ⟨m, hm', hx⟩)
    · exact .inr (.inl ⟨m', hm', hx⟩)
  · exact .inr (.inr hx)

/-- What varies a document without its physics varies that of the world with standard physics. -/
theorem varies_without_physics {w : World} {t u : Document.Tree Scalar}
    (ht : w.toTree.without? "physics" [] = some t)
    (hu : (Shape.record fields).Varies absent t u) :
  (Shape.record fields).Varies absent { w with physics := {} }.toTree u
  := by
  rw [toTree, Tree.without?_nil] at ht
  cases ht
  obtain ⟨ms, kept, unknown, ns, hms, rfl, hpruned, hunknown, hperm⟩ := hu
  obtain rfl := Tree.record_inj hms
  refine ⟨_, kept, unknown, ns, rfl, rfl, ?_, hunknown, hperm⟩
  apply Pruned.insert rfl [("version", _), ("name", _)] hpruned

/-- With standard physics, a world has no new numbers that are not finite. -/
theorem isFinite_of_standard {w : World} (hw : ∀ x ∈ w.numbers, x.isFinite = true) :
  ∀ x ∈ { w with physics := {} }.numbers, x.isFinite = true
  := by
  intro x hx
  simp only [numbers, boundNumbers, freeNumbers, List.mem_append] at hx hw
  rcases hx with (hx | hx) | hx
  · revert x
    decide +kernel
  · apply hw x (.inl (.inr hx))
  · apply hw x (.inr hx)

/-! ### Worlds -/

/-- In every dialect that carries scalars and keeps finite numbers, the document of a world with
finite numbers is read as that world in any order of members, with unknown members, and without
those that hold their default.  A joint whose velocity is deleted has none, and a world without
physics has standard physics.  Without any other member, no world is read. -/
theorem optional_members (h : d.Carries f) (hkeeps : ∀ x : Float, x.isFinite = true → d.Keeps f x)
    {w : World} (hw : ∀ x ∈ w.numbers, x.isFinite = true) :
  (∀ u, (Shape.record fields).Varies absent w.toTree u → ofTree? d (u.relabel f) = some w)
    ∧ (∀ i k m j v, w.models[i]? = some m → m.joints[k]? = some j → j.initialVelocity = some v →
      ∃ t, w.toTree.without? "initial_velocity"
          [.member "models", .item i, .member "joints", .item k] = some t
        ∧ ∀ u, (Shape.record fields).Varies absent t u →
          ofTree? d (u.relabel f) = some (w.withoutVelocity i k))
    ∧ (∃ t, w.toTree.without? "physics" [] = some t
      ∧ ∀ u, (Shape.record fields).Varies absent t u →
        ofTree? d (u.relabel f) = some { w with physics := {} })
    ∧ ∀ path key, w.Required path key → ∃ t, w.toTree.without? key path = some t
      ∧ ∀ u, (Shape.record fields).Varies absent t u → ofTree? d (u.relabel f) = none
  := by
  have hread : ∀ v : World, (∀ x ∈ v.numbers, x.isFinite = true) →
      ∀ u, (Shape.record fields).Varies absent v.toTree u → ofTree? d (u.relabel f) = some v := by
    intro v hv
    apply ofTree?_varies h
    intro x hx
    apply hkeeps x (hv x hx)
  refine ⟨hread w hw, ?_, ?_, ?_⟩
  · intro i k m j v hm hj hv
    refine ⟨_, without?_velocity hm hj hv, ?_⟩
    apply hread
    intro x hx
    apply hw x (mem_numbers_withoutVelocity hx)
  · refine ⟨_, Tree.without?_nil _, ?_⟩
    intro u hu
    apply hread _ (isFinite_of_standard hw)
    apply varies_without_physics (Tree.without?_nil _) hu
  · intro path key hkey
    obtain ⟨t, ht⟩ := hkey.exists_without?
    exact ⟨t, ht, hkey.ofTree?_without h t ht⟩

end

/-- A cart with a wheel at rest. -/
def cart : Model where
  name := "cart"
  joints := [{ name := "wheel", initialVelocity := some (-0.0) }]

/-- A short document of the cart, with a comment. -/
def shortCart : Document.Tree Scalar :=
  .record [
    ("comment", .leaf .null),
    ("joints", .list [.record [("initial_velocity", .float (-0.0)), ("name", .text "wheel")]]),
    ("name", .text "cart")]

/-- A world with the cart. -/
def cartWorld : World where
  version := 1
  name := "w"
  models := [cart]

/-- A short document of that world, with a comment. -/
def shortCartWorld : Document.Tree Scalar :=
  .record [("models", .list [shortCart]), ("comment", .list []), ("name", .text "w"),
    ("version", .leaf (.int 1))]

/-- The short document of the cart is one in another order, without plugins. -/
theorem varies_shortCart :
  (Shape.record Model.fields).Varies absent cart.toTree shortCart
  := by
  have hjoint : (Shape.record Joint.fields).Varies absent
      (Joint.toTree { name := "wheel", initialVelocity := some (-0.0) })
      (.record [("initial_velocity", .float (-0.0)), ("name", .text "wheel")]) := by
    refine ⟨_, _, [], _, rfl, rfl, .keep ?name (.keep ?velocity .nil), by simp, .swap _ _ []⟩
    case name => exact Fields.varies_ofList_iff.2 ⟨_, rfl, rfl⟩
    case velocity => exact Fields.varies_ofList_iff.2 ⟨_, rfl, rfl⟩
  refine ⟨_, _, [("comment", .leaf .null)], _, rfl, rfl,
    .keep ?name (.keep ?joints (.leave rfl .nil)), by simp [Model.fields],
    List.reverse_perm [("name", _), ("joints", _), ("comment", _)]⟩
  case name => exact Fields.varies_ofList_iff.2 ⟨_, rfl, rfl⟩
  case joints => exact Fields.varies_ofList_iff.2 ⟨_, rfl, _, _, rfl, rfl, .cons hjoint .nil⟩

/-- The short document of the world is one in another order, without physics and commands. -/
theorem varies_shortCartWorld :
  (Shape.record fields).Varies absent cartWorld.toTree shortCartWorld
  := by
  refine ⟨_, [("version", .leaf (.int 1)), ("name", .text "w"), ("models", .list [shortCart])],
    [("comment", .list [])], _, rfl, rfl,
    .keep ?version (.keep ?name (.leave rfl (.keep ?models (.leave rfl .nil)))), by simp [fields],
    by decide +kernel⟩
  case version => exact Fields.varies_ofList_iff.2 ⟨_, rfl, rfl⟩
  case name => exact Fields.varies_ofList_iff.2 ⟨_, rfl, rfl⟩
  case models =>
    exact Fields.varies_ofList_iff.2 ⟨_, rfl, _, _, rfl, rfl, .cons varies_shortCart .nil⟩

/-- In JSON and in YAML the world is read from its short document.  From a document in which the
wheel has no name no world is read. -/
theorem optional_members_cart :
  (∀ x ∈ cartWorld.numbers, x.isFinite = true)
    ∧ ofTree? Json.dialect (shortCartWorld.relabel Json.written) = some cartWorld
    ∧ (∀ g : Yaml.Graph, ofTree? g.dialect (shortCartWorld.relabel Yaml.written) = some cartWorld)
    ∧ ∃ t, cartWorld.toTree.without? "name"
        [.member "models", .item 0, .member "joints", .item 0] = some t
      ∧ ∀ u, (Shape.record fields).Varies absent t u →
        ofTree? Json.dialect (u.relabel Json.written) = none
  := by
  have hfinite : ∀ x ∈ cartWorld.numbers, x.isFinite = true := by decide +kernel
  obtain ⟨hread, -, -, hrequired⟩ :=
    optional_members Json.carries_written (fun _ => Json.keeps_written) hfinite
  refine ⟨hfinite, hread _ varies_shortCartWorld, ?_, hrequired _ _ (.jointName rfl rfl)⟩
  intro g
  apply (optional_members (Yaml.carries_written g) (fun x _ => Yaml.keeps_written g x) hfinite).1
  apply varies_shortCartWorld

end World

end Servo
