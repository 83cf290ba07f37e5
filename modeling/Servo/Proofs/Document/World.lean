import Servo.Document.World
import Servo.Proofs.Document.Embedding

/-!
# Worlds read from their documents

The tree of a world, with its scalars in another notation, is read as that world if the
dialect of the notation carries the scalars and keeps the numbers of the world
(`World.ofTree?_toTree`).  It is no world if a number is lost that must be there
(`World.ofTree?_toTree_eq_none`).
-/

namespace Servo

open Document

/-! ### Dictionaries -/

namespace Dictionary

variable {α : Type}

/-- An entry with a new key is put between the others. -/
theorem perm_insertEntry {k : String} {a : α} {l : List (String × α)}
    (hk : k ∉ l.map Prod.fst) :
  (insertEntry k a l).Perm ((k, a) :: l)
  := by
  induction l with
  | nil => apply List.Perm.refl
  | cons p rest ih =>
    rw [List.map_cons, List.mem_cons, not_or] at hk
    rw [insertEntry]
    split
    next => apply List.Perm.refl
    next =>
      rw [if_neg hk.1]
      apply ((ih hk.2).cons p).trans
      apply List.Perm.swap

/-- The dictionary of entries with different keys has just these entries. -/
theorem perm_entries_ofList {l : List (String × α)} (hl : (l.map Prod.fst).Nodup) :
  (ofList l).entries.Perm l
  := by
  have hfold (l : List (String × α)) (c : Dictionary α)
      (h : ((c.entries ++ l).map Prod.fst).Nodup) :
      (l.foldl (fun d p => d.insert p.1 p.2) c).entries.Perm (c.entries ++ l) := by
    induction l generalizing c with
    | nil =>
      rw [List.append_nil]
      apply List.Perm.refl
    | cons p l ih =>
      have hmiddle : (c.entries ++ p :: l).Perm (p :: (c.entries ++ l)) := List.perm_middle
      have hnodup := (hmiddle.map Prod.fst).nodup_iff.1 h
      have hnew : p.1 ∉ c.entries.map Prod.fst := by
        intro hmem
        apply (List.nodup_cons.1 hnodup).1
        rw [List.map_append, List.mem_append]
        exact .inl hmem
      have hinsert : (c.insert p.1 p.2).entries.Perm (p :: c.entries) := perm_insertEntry hnew
      rw [List.foldl_cons]
      apply (ih (c.insert p.1 p.2) ?_).trans
      · apply (hinsert.append_right l).trans hmiddle.symm
      · apply (((hinsert.append_right l).map Prod.fst).nodup_iff).2 hnodup
  apply hfold l empty hl

/-- A dictionary is what its entries make, in any order. -/
theorem ofList_of_perm {d : Dictionary α} {l : List (String × α)} (h : l.Perm d.entries) :
  ofList l = d
  := by
  have hkeys : (d.entries.map Prod.fst).Nodup := by
    apply List.pairwise_map.2
    apply d.increasing.imp
    intro p q hlt
    apply Std.ne_of_lt hlt
  have hperm := (perm_entries_ofList ((h.map Prod.fst).nodup_iff.2 hkeys)).trans h
  have hentries : (ofList l).entries = d.entries := by
    apply hperm.eq_of_pairwise _ (ofList l).increasing d.increasing
    intro p q _ _ hlt hgt
    exact absurd hgt (String.lt_asymm hlt)
  cases d
  cases hl : ofList l
  rw [hl] at hentries
  cases hentries
  rfl

end Dictionary

namespace World

/-! ### The numbers of a world -/

/-- The number that a value is, if it is one. -/
def number? : Params.Value → Option Float
  | .float x => some x
  | .bool _ | .int _ | .text _ => none

/-- The numbers among the parameters of a plugin. -/
def Plugin.numbers (p : Plugin) : List Float := p.params.entries.filterMap fun e => number? e.2

/-- The numbers of a world on which validity puts no bounds: those among its parameters, and
the values of its commands. -/
def freeNumbers (w : World) : List Float :=
  w.models.flatMap (fun m => m.plugins.flatMap Plugin.numbers) ++ w.commands.map Command.value

/-- The other numbers of a world. -/
def boundNumbers (w : World) : List Float :=
  [w.physics.inertia, w.physics.damping]
    ++ (w.models.flatMap (fun m => m.joints.filterMap Joint.initialVelocity)
      ++ w.commands.map Command.time)

/-- The numbers of a world. -/
def numbers (w : World) : List Float := w.boundNumbers ++ w.freeNumbers

/-! ### Scalars -/

section Scalars

variable {P K : Scalar → Prop}

/-- The scalars of parameters are truth values, integers, texts and their numbers. -/
theorem all_writeParams (hkey : ∀ s, K (.text s)) (hbool : ∀ b, P (.bool b))
    (hint : ∀ n : Int64, P (.int n.toInt)) (htext : ∀ s, P (.text s)) {p : Plugin}
    (hnumber : ∀ x ∈ p.numbers, P (.float x)) :
  (Params.codec.write p.params).All P K
  := by
  rw [Params.codec, Tree.all_record_iff]
  intro m hm
  obtain ⟨e, he, rfl⟩ := List.mem_map.1 hm
  refine ⟨hkey _, ?_⟩
  rw [Tree.All]
  cases hv : e.2 with
  | bool b => apply hbool
  | int n => apply hint
  | text s => apply htext
  | float x =>
    apply hnumber
    apply List.mem_filterMap.2 ⟨e, he, by rw [hv, number?]⟩

/-- The scalars of a model are those of its parameters, its names and its velocities. -/
theorem Model.all_toTree (hkey : ∀ s, K (.text s)) (hbool : ∀ b, P (.bool b))
    (hint : ∀ n : Int64, P (.int n.toInt)) (htext : ∀ s, P (.text s)) {m : Model}
    (hjoints : ∀ x ∈ m.joints.filterMap Joint.initialVelocity, P (.float x))
    (hplugins : ∀ x ∈ m.plugins.flatMap Plugin.numbers, P (.float x)) :
  m.toTree.All P K
  := by
  have hjoint : ∀ j ∈ m.joints, j.toTree.All P K := by
    intro j hj
    rw [Joint.toTree, Tree.all_record_iff]
    cases hv : j.initialVelocity with
    | none => simp [hkey, Tree.All, Tree.text, htext]
    | some v =>
      have hx := hjoints v (List.mem_filterMap.2 ⟨j, hj, hv⟩)
      simp [hkey, Tree.All, Tree.text, Tree.float, htext, hx]
  have hplugin : ∀ p ∈ m.plugins, p.toTree.All P K := by
    intro p hp
    have hparams : (Params.codec.write p.params).All P K := by
      apply all_writeParams hkey hbool hint htext
      intro x hx
      apply hplugins x (List.mem_flatMap.2 ⟨p, hp, hx⟩)
    rw [Plugin.toTree, Tree.all_record_iff]
    simp [hkey, Tree.All, Tree.text, htext, hparams]
  rw [toTree, Tree.all_record_iff]
  simp only [List.forall_mem_cons, hkey, true_and, Tree.all_list_iff, List.forall_mem_map]
  exact ⟨htext _, hjoint, hplugin, List.forall_mem_nil _⟩

/-- The scalars of a world are its version, its names and topics, its numbers and those of
its parameters. -/
theorem all_toTree (hkey : ∀ s, K (.text s)) (hbool : ∀ b, P (.bool b))
    (hint : ∀ n : Int64, P (.int n.toInt)) (hversion : ∀ n : UInt32, P (.int n.toNat))
    (htext : ∀ s, P (.text s)) {w : World} (hnumber : ∀ x ∈ w.numbers, P (.float x)) :
  w.toTree.All P K
  := by
  simp only [numbers, boundNumbers, freeNumbers, List.mem_append] at hnumber
  have hphysics : w.physics.toTree.All P K := by
    rw [Physics.toTree, Tree.all_record_iff]
    simp [hkey, Tree.All, Tree.float, hnumber]
  have hmodels : ∀ m ∈ w.models, m.toTree.All P K := by
    intro m hm
    apply Model.all_toTree hkey hbool hint htext
    · intro x hx
      apply hnumber x (.inl (.inr (.inl (List.mem_flatMap.2 ⟨m, hm, hx⟩))))
    · intro x hx
      apply hnumber x (.inr (.inl (List.mem_flatMap.2 ⟨m, hm, hx⟩)))
  have hcommands : ∀ c ∈ w.commands, c.toTree.All P K := by
    intro c hc
    have htime := hnumber c.time (.inl (.inr (.inr (List.mem_map_of_mem hc))))
    have hvalue := hnumber c.value (.inr (.inr (List.mem_map_of_mem hc)))
    rw [Command.toTree, Tree.all_record_iff]
    simp [hkey, Tree.All, Tree.text, Tree.float, htext, htime, hvalue]
  rw [toTree, Tree.all_record_iff]
  simp only [List.forall_mem_cons, hkey, true_and, Tree.all_list_iff, List.forall_mem_map]
  exact ⟨hversion _, htext _, hphysics, hmodels, hcommands, List.forall_mem_nil _⟩

end Scalars

/-! ### Reading -/

section Reading

variable {α : Type} {d : Dialect α} {f : Scalar → α}

/-- Physics is read back. -/
theorem Physics.ofTree?_toTree (h : d.Carries f) {p : Physics} (hinertia : d.Keeps f p.inertia)
    (hdamping : d.Keeps f p.damping) :
  Physics.ofTree? d (p.toTree.relabel f) = some p
  := by
  obtain ⟨slot, hrecord, hgiven, -⟩ := h.record? fields
    [("inertia", .float p.inertia), ("damping", .float p.damping)] (by simp)
  obtain ⟨hi, hd⟩ : slot "inertia" = .given ((Tree.float p.inertia).relabel f)
      ∧ slot "damping" = .given ((Tree.float p.damping).relabel f) := by
    simpa [fields] using hgiven
  rw [ofTree?, toTree, hrecord]
  simp only [Option.bind_eq_bind, Option.bind_some, hi, hd, Slot.default?, h.floatOf?,
    hinertia.float, hdamping.float]
  rfl

/-- A joint is read back. -/
theorem Joint.ofTree?_toTree (h : d.Carries f) {j : Joint}
    (hvelocity : ∀ v, j.initialVelocity = some v → d.Keeps f v) :
  Joint.ofTree? d (j.toTree.relabel f) = some j
  := by
  obtain ⟨name, velocity⟩ := j
  cases velocity with
  | none =>
    obtain ⟨slot, hrecord, hgiven, homitted⟩ := h.record? fields
      [("name", .text name)] (by simp)
    have hname : slot "name" = .given ((Tree.text name).relabel f) := by
      simpa [fields] using hgiven
    have hvelocity : slot "initial_velocity" = .omitted := by
      apply homitted <;> simp [fields]
    rw [ofTree?, toTree, hrecord]
    simp only [Option.bind_eq_bind, Option.bind_some, hname, hvelocity, Slot.required?,
      Slot.default?, h.textOf?]
    rfl
  | some v =>
    obtain ⟨slot, hrecord, hgiven, -⟩ := h.record? fields
      [("name", .text name), ("initial_velocity", .float v)] (by simp)
    obtain ⟨hn, hv⟩ : slot "name" = .given ((Tree.text name).relabel f)
        ∧ slot "initial_velocity" = .given ((Tree.float v).relabel f) := by
      simpa [fields] using hgiven
    have hkeep := hvelocity v rfl
    rw [ofTree?, toTree, hrecord]
    simp only [Option.bind_eq_bind, Option.bind_some, hn, hv, Slot.required?, Slot.default?,
      Dialect.maybe?, h.textOf?, h.floatOf?, h.absentOf?, hkeep.present, hkeep.float]
    rfl

theorem paramsOfTree?_record (h : d.Carries f) (ms : List (String × Document.Tree Scalar)) :
  Params.ofTree? d ((Tree.record ms).relabel f)
    = (ms.mapM fun m => (Params.Value.ofTree? d (m.2.relabel f)).map (m.1, ·)).bind fun entries =>
        some (Dictionary.ofList entries)
  := by
  rw [Params.ofTree?, h.resolve, Tree.relabel_record]
  simp only [h.named?, Option.bind_eq_bind, Option.bind_some, List.mapM_map,
    Function.comp_def]
  rfl

/-- The parameters of a plugin are read entry by entry. -/
theorem paramsOfTree?_write (h : d.Carries f) (p : Params) :
  Params.ofTree? d ((Params.codec.write p).relabel f)
    = (p.entries.mapM fun e => (d.value? (f e.2.scalar)).map (e.1, ·)).bind fun entries =>
        some (Dictionary.ofList entries)
  := by
  rw [Params.codec, paramsOfTree?_record h, List.mapM_map]
  simp only [Function.comp_def, Params.Value.ofTree?, h.resolve]
  rfl

/-- A parameter is read back, if its number is kept. -/
theorem value?_scalar (h : d.Carries f) {v : Params.Value}
    (hv : ∀ x, number? v = some x → d.Keeps f x) :
  d.value? (f v.scalar) = some v
  := by
  cases v with
  | bool b => apply h.bool
  | int n => apply h.int
  | float x => apply (hv x rfl).value
  | text s => apply h.string

/-- A plugin is read as one of its kind with the parameters that are read. -/
theorem Plugin.ofTree?_toTree (h : d.Carries f) (p : Plugin) :
  Plugin.ofTree? d (p.toTree.relabel f)
    = (Params.ofTree? d ((Params.codec.write p.params).relabel f)).bind fun params =>
        some ⟨p.kind, params⟩
  := by
  obtain ⟨slot, hrecord, hgiven, -⟩ := h.record? fields
    [("type", .text p.kind.name), ("params", Params.codec.write p.params)] (by simp)
  obtain ⟨ht, hp⟩ : slot "type" = .given ((Tree.text p.kind.name).relabel f)
      ∧ slot "params" = .given ((Params.codec.write p.params).relabel f) := by
    simpa [fields] using hgiven
  have hkind : [(PluginKind.jointController.name, PluginKind.jointController)].lookup p.kind.name
      = some p.kind := by
    cases p.kind
    rfl
  rw [ofTree?, toTree, hrecord]
  simp only [Option.bind_eq_bind, Option.bind_some, ht, hp, Slot.required?, Slot.default?,
    Dialect.oneOf?, h.wordOf?, hkind]
  rfl

/-- Parameters whose numbers are kept are read back, entry by entry. -/
theorem entries_of_keeps (h : d.Carries f) {p : Plugin} (hp : ∀ x ∈ p.numbers, d.Keeps f x) :
  p.params.entries.mapM (fun e => (d.value? (f e.2.scalar)).map (e.1, ·)) = some p.params.entries
  := by
  apply mapM_eq_self
  intro e he
  rw [value?_scalar h]
  · rfl
  · intro x hx
    apply hp x (List.mem_filterMap.2 ⟨e, he, hx⟩)

theorem Plugin.ofTree?_toTree_of_keeps (h : d.Carries f) {p : Plugin}
    (hp : ∀ x ∈ p.numbers, d.Keeps f x) :
  Plugin.ofTree? d (p.toTree.relabel f) = some p
  := by
  rw [ofTree?_toTree h, paramsOfTree?_write h, entries_of_keeps h hp, Option.bind_some,
    Option.bind_some, Dictionary.ofList_of_perm (List.Perm.refl _)]

/-- A plugin with a number that is lost is not read. -/
theorem Plugin.ofTree?_toTree_eq_none (h : d.Carries f) {p : Plugin} {x : Float}
    (hx : x ∈ p.numbers) (hlost : d.Loses f x) :
  Plugin.ofTree? d (p.toTree.relabel f) = none
  := by
  obtain ⟨⟨key, v⟩, he, hv⟩ := List.mem_filterMap.1 hx
  have hread : (d.value? (f v.scalar)).map (key, ·) = none := by
    cases v with
    | float y =>
      cases hv
      rw [Params.Value.scalar, hlost.value]
      rfl
    | bool _ => cases hv
    | int _ => cases hv
    | text _ => cases hv
  rw [ofTree?_toTree h, paramsOfTree?_write h, mapM_eq_none he hread]
  rfl

/-- A model is read with the joints and the plugins that are read. -/
theorem Model.ofTree?_toTree (h : d.Carries f) (m : Model) :
  Model.ofTree? d (m.toTree.relabel f)
    = (m.joints.mapM fun j => Joint.ofTree? d (j.toTree.relabel f)).bind fun joints =>
        (m.plugins.mapM fun p => Plugin.ofTree? d (p.toTree.relabel f)).bind fun plugins =>
          some ⟨m.name, joints, plugins⟩
  := by
  obtain ⟨slot, hrecord, hgiven, -⟩ := h.record? fields
    [("name", .text m.name), ("joints", .list (m.joints.map Joint.toTree)),
      ("plugins", .list (m.plugins.map Plugin.toTree))] (by simp)
  obtain ⟨hn, hj, hp⟩ : slot "name" = .given ((Tree.text m.name).relabel f)
      ∧ slot "joints" = .given ((Tree.list (m.joints.map Joint.toTree)).relabel f)
      ∧ slot "plugins" = .given ((Tree.list (m.plugins.map Plugin.toTree)).relabel f) := by
    simpa [fields] using hgiven
  rw [ofTree?, toTree, hrecord]
  simp only [Option.bind_eq_bind, Option.bind_some, hn, hj, hp, Slot.required?, Slot.default?,
    h.textOf?, h.listOf?, List.mapM_map, Function.comp_def]
  rfl

/-- A model whose numbers are kept is read back. -/
theorem Model.ofTree?_toTree_of_keeps (h : d.Carries f) {m : Model}
    (hjoints : ∀ x ∈ m.joints.filterMap Joint.initialVelocity, d.Keeps f x)
    (hplugins : ∀ x ∈ m.plugins.flatMap Plugin.numbers, d.Keeps f x) :
  Model.ofTree? d (m.toTree.relabel f) = some m
  := by
  have hjs : m.joints.mapM (fun j => Joint.ofTree? d (j.toTree.relabel f)) = some m.joints := by
    apply mapM_eq_self
    intro j hj
    apply Joint.ofTree?_toTree h
    intro v hv
    apply hjoints v (List.mem_filterMap.2 ⟨j, hj, hv⟩)
  have hps : m.plugins.mapM (fun p => Plugin.ofTree? d (p.toTree.relabel f))
      = some m.plugins := by
    apply mapM_eq_self
    intro p hp
    apply Plugin.ofTree?_toTree_of_keeps h
    intro x hx
    apply hplugins x (List.mem_flatMap.2 ⟨p, hp, hx⟩)
  rw [ofTree?_toTree h, hjs, hps]
  rfl

/-- A model with a number among its parameters that is lost is not read. -/
theorem Model.ofTree?_toTree_eq_none (h : d.Carries f) {m : Model} {x : Float}
    (hx : x ∈ m.plugins.flatMap Plugin.numbers) (hlost : d.Loses f x) :
  Model.ofTree? d (m.toTree.relabel f) = none
  := by
  obtain ⟨p, hp, hx⟩ := List.mem_flatMap.1 hx
  rw [ofTree?_toTree h, mapM_eq_none hp (Plugin.ofTree?_toTree_eq_none h hx hlost)]
  cases m.joints.mapM fun j => Joint.ofTree? d (j.toTree.relabel f) <;> rfl

/-- A command is read with the time and the value that are read. -/
theorem Command.ofTree?_toTree (h : d.Carries f) (c : Command) :
  Command.ofTree? d (c.toTree.relabel f)
    = (d.float? (f (.float c.time))).bind fun time =>
        (d.float? (f (.float c.value))).bind fun value => some ⟨time, c.topic, value⟩
  := by
  obtain ⟨slot, hrecord, hgiven, -⟩ := h.record? fields
    [("time", .float c.time), ("topic", .text c.topic), ("value", .float c.value)]
    (by simp)
  obtain ⟨ht, hto, hv⟩ : slot "time" = .given ((Tree.float c.time).relabel f)
      ∧ slot "topic" = .given ((Tree.text c.topic).relabel f)
      ∧ slot "value" = .given ((Tree.float c.value).relabel f) := by
    simpa [fields] using hgiven
  rw [ofTree?, toTree, hrecord]
  simp only [Option.bind_eq_bind, Option.bind_some, ht, hto, hv, Slot.required?, h.floatOf?,
    h.textOf?]
  rfl

/-- A world is read with the physics, the models and the commands that are read. -/
theorem ofTree?_toTree_eq (h : d.Carries f) (w : World) :
  ofTree? d (w.toTree.relabel f)
    = (Physics.ofTree? d (w.physics.toTree.relabel f)).bind fun physics =>
        (w.models.mapM fun m => Model.ofTree? d (m.toTree.relabel f)).bind fun models =>
          (w.commands.mapM fun c => Command.ofTree? d (c.toTree.relabel f)).bind fun commands =>
            some ⟨w.version, w.name, physics, models, commands⟩
  := by
  obtain ⟨slot, hrecord, hgiven, -⟩ := h.record? fields
    [("version", .leaf (.int w.version.toNat)), ("name", .text w.name),
      ("physics", w.physics.toTree), ("models", .list (w.models.map Model.toTree)),
      ("commands", .list (w.commands.map Command.toTree))] (by simp)
  obtain ⟨hv, hn, hp, hm, hc⟩ :
      slot "version" = .given ((Tree.leaf (.int w.version.toNat)).relabel f)
      ∧ slot "name" = .given ((Tree.text w.name).relabel f)
      ∧ slot "physics" = .given (w.physics.toTree.relabel f)
      ∧ slot "models" = .given ((Tree.list (w.models.map Model.toTree)).relabel f)
      ∧ slot "commands" = .given ((Tree.list (w.commands.map Command.toTree)).relabel f) := by
    simpa [fields] using hgiven
  rw [ofTree?, toTree, hrecord]
  simp only [Option.bind_eq_bind, Option.bind_some, hv, hn, hp, hm, hc, Slot.required?,
    Slot.default?, h.naturalOf?, h.textOf?, h.listOf?, List.mapM_map, Function.comp_def]
  rfl

/-- A world whose numbers are kept is read back. -/
theorem ofTree?_toTree (h : d.Carries f) {w : World} (hnumbers : ∀ x ∈ w.numbers, d.Keeps f x) :
  ofTree? d (w.toTree.relabel f) = some w
  := by
  simp only [numbers, boundNumbers, freeNumbers, List.mem_append] at hnumbers
  have hphysics : Physics.ofTree? d (w.physics.toTree.relabel f) = some w.physics := by
    apply Physics.ofTree?_toTree h <;> apply hnumbers <;> simp
  have hmodels : w.models.mapM (fun m => Model.ofTree? d (m.toTree.relabel f))
      = some w.models := by
    apply mapM_eq_self
    intro m hm
    apply Model.ofTree?_toTree_of_keeps h
    · intro x hx
      apply hnumbers x (.inl (.inr (.inl (List.mem_flatMap.2 ⟨m, hm, hx⟩))))
    · intro x hx
      apply hnumbers x (.inr (.inl (List.mem_flatMap.2 ⟨m, hm, hx⟩)))
  have hcommands : w.commands.mapM (fun c => Command.ofTree? d (c.toTree.relabel f))
      = some w.commands := by
    apply mapM_eq_self
    intro c hc
    have htime := hnumbers c.time (.inl (.inr (.inr (List.mem_map_of_mem hc))))
    have hvalue := hnumbers c.value (.inr (.inr (List.mem_map_of_mem hc)))
    rw [Command.ofTree?_toTree h, htime.float, hvalue.float]
    rfl
  rw [ofTree?_toTree_eq h, hphysics, hmodels, hcommands]
  rfl

/-- A world with a number that has no bounds and is lost is not read. -/
theorem ofTree?_toTree_eq_none (h : d.Carries f) {w : World} {x : Float}
    (hx : x ∈ w.freeNumbers) (hlost : d.Loses f x) :
  ofTree? d (w.toTree.relabel f) = none
  := by
  rw [ofTree?_toTree_eq h]
  rcases List.mem_append.1 hx with hx | hx
  · obtain ⟨m, hm, hx⟩ := List.mem_flatMap.1 hx
    rw [mapM_eq_none hm (Model.ofTree?_toTree_eq_none h hx hlost)]
    cases Physics.ofTree? d (w.physics.toTree.relabel f) <;> rfl
  · obtain ⟨c, hc, rfl⟩ := List.mem_map.1 hx
    have hread : Command.ofTree? d (c.toTree.relabel f) = none := by
      rw [Command.ofTree?_toTree h, hlost.float]
      cases d.float? (f (.float c.time)) <;> rfl
    rw [mapM_eq_none hc hread]
    cases Physics.ofTree? d (w.physics.toTree.relabel f)
    · rfl
    · cases w.models.mapM fun m => Model.ofTree? d (m.toTree.relabel f) <;> rfl

end Reading

end World

end Servo
