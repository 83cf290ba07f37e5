import Servo.Proofs.World.Valid
import Servo.World.Findings

/-!
# Findings about a valid world

A `Slot` is a plugin with its model and its place there.  The findings about a world are those about
its slots one after the other, and in a valid world a finding says which slot it is about.  They are
in order (`Valid.pairwise_findings`), and there are none if nothing is wrong with any plugin
(`findings_eq_nil_iff`).
-/

namespace Servo.World

/-! ### Slots -/

/-- A plugin with its model and its place there. -/
structure Slot where
  model : Model
  place : Nat
  plugin : Plugin

/-- The slots of a model. -/
def Model.slots (m : Model) : List Slot := m.plugins.zipIdx.map fun (p, place) => ⟨m, place, p⟩

/-- The slots of a world, in the order of the document. -/
def slots (w : World) : List Slot := w.models.flatMap Model.slots

/-- A slot of a model has a place among its plugins. -/
theorem Model.mem_slots_iff {m : Model} {x : Slot} :
  x ∈ m.slots ↔ x.model = m ∧ m.plugins[x.place]? = some x.plugin
  := by
  rw [slots, List.mem_map]
  constructor
  · rintro ⟨⟨p, place⟩, hmem, rfl⟩
    exact ⟨rfl, List.mk_mem_zipIdx_iff_getElem?.1 hmem⟩
  · rintro ⟨rfl, hplugin⟩
    exact ⟨(x.plugin, x.place), List.mk_mem_zipIdx_iff_getElem?.2 hplugin, rfl⟩

/-- A slot of a world has a place among the plugins of a model of the world. -/
theorem mem_slots_iff {w : World} {x : Slot} :
  x ∈ w.slots ↔ x.model ∈ w.models ∧ x.model.plugins[x.place]? = some x.plugin
  := by
  rw [slots, List.mem_flatMap]
  constructor
  · rintro ⟨m, hm, hx⟩
    obtain ⟨rfl, hplugin⟩ := Model.mem_slots_iff.1 hx
    exact ⟨hm, hplugin⟩
  · rintro ⟨hm, hplugin⟩
    exact ⟨x.model, hm, Model.mem_slots_iff.2 ⟨rfl, hplugin⟩⟩

/-- A slot of a valid world is known by the name of its model and its place. -/
theorem Valid.slot_eq {w : World} (hw : w.Valid) {x y : Slot} (hx : x ∈ w.slots)
    (hy : y ∈ w.slots) (hname : x.model.name = y.model.name) (hplace : x.place = y.place) :
  x = y
  := by
  obtain ⟨hxmodel, hxplugin⟩ := mem_slots_iff.1 hx
  obtain ⟨hymodel, hyplugin⟩ := mem_slots_iff.1 hy
  have hmodel := List.inj_on_of_nodup_map hw.distinct hxmodel hymodel hname
  have hplugin : x.plugin = y.plugin := by
    apply Option.some.inj
    rw [← hxplugin, ← hyplugin, hmodel, hplace]
  obtain ⟨model, place, plugin⟩ := x
  cases hmodel
  cases hplace
  cases hplugin
  rfl

/-- The slots of a valid world whose model has the name of a model are those of this model. -/
theorem Valid.filter_slots {w : World} (hw : w.Valid) {m : Model} (hm : m ∈ w.models) :
  w.slots.filter (·.model.name = m.name) = m.slots
  := by
  have hothers : ∀ models : List Model, (∀ m' ∈ models, m'.name ≠ m.name) →
      (models.flatMap Model.slots).filter (·.model.name = m.name) = [] := by
    intro models hmodels
    apply List.filter_eq_nil_iff.2
    intro x hx
    obtain ⟨m', hm', hx⟩ := List.mem_flatMap.1 hx
    rw [(Model.mem_slots_iff.1 hx).1, decide_eq_true_iff]
    apply hmodels m' hm'
  have hown : m.slots.filter (·.model.name = m.name) = m.slots := by
    apply List.filter_eq_self.2
    intro x hx
    rw [(Model.mem_slots_iff.1 hx).1, decide_eq_true_iff]
  obtain ⟨before, after, hmodels⟩ := List.append_of_mem hm
  have hdistinct := hw.distinct
  rw [hmodels, List.map_append, List.map_cons] at hdistinct
  obtain ⟨-, hafter, hbefore⟩ := List.nodup_append.1 hdistinct
  rw [slots, hmodels, List.flatMap_append, List.flatMap_cons, List.filter_append,
    List.filter_append, hown, hothers before, hothers after, List.append_nil, List.nil_append]
  · intro m' hm' hname
    apply (List.nodup_cons.1 hafter).1
    rw [← hname]
    apply List.mem_map_of_mem hm'
  · intro m' hm'
    apply hbefore _ (List.mem_map_of_mem hm') _ List.mem_cons_self

/-! ### What is found -/

/-- The findings about a slot. -/
def Slot.findings (x : Slot) : List Finding := x.plugin.findings x.model.name x.place

/-- The name of the model that a finding is about. -/
def Finding.model : Finding → String
  | .disabled model _ _ => model
  | .unrecognized model _ _ => model

/-- The place of the plugin that a finding is about. -/
def Finding.place : Finding → Nat
  | .disabled _ place _ => place
  | .unrecognized _ place _ => place

/-- The parameter that a finding is about, unless it is about all of them. -/
def Finding.key? : Finding → Option String
  | .disabled .. => none
  | .unrecognized _ _ key => some key

/-- The findings about a world are those about its slots. -/
theorem findings_eq (w : World) :
  w.findings = w.slots.flatMap Slot.findings
  := by
  rw [slots, List.flatMap_assoc, findings]
  apply List.flatMap_congr
  intro m _
  rw [Model.slots, List.flatMap_map]
  rfl

theorem Slot.disabled_mem_findings_iff {x : Slot} {model : String} {place : Nat}
    {e : Controller.Error} :
  .disabled model place e ∈ x.findings ↔ x.model.name = model ∧ x.place = place
    ∧ Controller.Config.ofParams x.plugin.params = .error e
  := by
  rw [findings, Plugin.findings, List.mem_append]
  cases Controller.Config.ofParams x.plugin.params <;> grind

theorem Slot.unrecognized_mem_findings_iff {x : Slot} {model : String} {place : Nat}
    {key : String} :
  .unrecognized model place key ∈ x.findings ↔ x.model.name = model ∧ x.place = place
    ∧ key ∈ x.plugin.params.keys ∧ key ∉ Controller.Config.keys
  := by
  rw [findings, Plugin.findings, List.mem_append]
  cases Controller.Config.ofParams x.plugin.params <;> grind

/-- A finding about a slot names the model and the place. -/
theorem Slot.of_mem_findings {x : Slot} {f : Finding} (h : f ∈ x.findings) :
  x.model.name = f.model ∧ x.place = f.place
  := by
  cases f with
  | disabled model place e =>
    obtain ⟨hmodel, hplace, -⟩ := disabled_mem_findings_iff.1 h
    exact ⟨hmodel, hplace⟩
  | unrecognized model place key =>
    obtain ⟨hmodel, hplace, -⟩ := unrecognized_mem_findings_iff.1 h
    exact ⟨hmodel, hplace⟩

/-- The findings about a slot of a valid world are those that name its model and its place. -/
theorem Valid.mem_findings_iff {w : World} (hw : w.Valid) {x : Slot} (hx : x ∈ w.slots)
    {f : Finding} (hmodel : x.model.name = f.model) (hplace : x.place = f.place) :
  f ∈ w.findings ↔ f ∈ x.findings
  := by
  rw [findings_eq, List.mem_flatMap]
  constructor
  · rintro ⟨y, hy, hf⟩
    obtain ⟨hymodel, hyplace⟩ := Slot.of_mem_findings hf
    rw [hw.slot_eq hx hy (hmodel.trans hymodel.symm) (hplace.trans hyplace.symm)]
    apply hf
  · intro hf
    exact ⟨x, hx, hf⟩

/-- In a valid world a slot is found to be disabled if its parameters configure no controller. -/
theorem Valid.disabled_mem_findings_iff {w : World} (hw : w.Valid) {x : Slot} (hx : x ∈ w.slots)
    {e : Controller.Error} :
  .disabled x.model.name x.place e ∈ w.findings
    ↔ Controller.Config.ofParams x.plugin.params = .error e
  := by
  rw [hw.mem_findings_iff hx rfl rfl, Slot.disabled_mem_findings_iff]
  simp only [true_and]

/-- In a valid world the parameters of a slot that mean nothing are found. -/
theorem Valid.unrecognized_mem_findings_iff {w : World} (hw : w.Valid) {x : Slot}
    (hx : x ∈ w.slots) {key : String} :
  .unrecognized x.model.name x.place key ∈ w.findings
    ↔ key ∈ x.plugin.params.keys ∧ key ∉ Controller.Config.keys
  := by
  rw [hw.mem_findings_iff hx rfl rfl, Slot.unrecognized_mem_findings_iff]
  simp only [true_and]

/-- Nothing is wrong with a plugin: its parameters configure a controller, and each of them means
something. -/
structure Plugin.Sound (p : Plugin) : Prop where
  configured : ∃ c, Controller.Config.ofParams p.params = .ok c
  recognized : ∀ key ∈ p.params.keys, key ∈ Controller.Config.keys

/-- There are no findings about a plugin exactly if nothing is wrong with it. -/
theorem Plugin.findings_eq_nil_iff {p : Plugin} (model : String) (place : Nat) :
  p.findings model place = [] ↔ p.Sound
  := by
  have hstrange : (p.params.keys.filter (· ∉ Controller.Config.keys)) = []
      ↔ ∀ key ∈ p.params.keys, key ∈ Controller.Config.keys := by
    simp only [List.filter_eq_nil_iff, decide_eq_true_eq, Decidable.not_not]
  rw [findings, List.append_eq_nil_iff, List.map_eq_nil_iff, hstrange]
  constructor
  · rintro ⟨hfault, hrecognized⟩
    refine ⟨?_, hrecognized⟩
    cases hconfig : Controller.Config.ofParams p.params with
    | ok c => exact ⟨c, rfl⟩
    | error e =>
      rw [hconfig] at hfault
      cases hfault
  · rintro ⟨⟨c, hconfig⟩, hrecognized⟩
    rw [hconfig]
    exact ⟨rfl, hrecognized⟩

/-- There are no findings about a world exactly if nothing is wrong with any of its plugins. -/
theorem findings_eq_nil_iff {w : World} :
  w.findings = [] ↔ ∀ m ∈ w.models, ∀ p ∈ m.plugins, p.Sound
  := by
  rw [findings, List.flatMap_eq_nil_iff]
  apply forall₂_congr
  intro m _
  simp only [Model.findings, List.flatMap_eq_nil_iff, Plugin.findings_eq_nil_iff]
  rw [← List.zipIdx_map_fst 0 m.plugins, List.forall_mem_map, List.zipIdx_map_fst]

/-! ### The order of findings -/

/-- The place of a model in a world, by its name. -/
def modelIndex (w : World) (name : String) : Nat := (w.models.map (·.name)).idxOf name

/-- A finding comes before another one in the document: its model does, or its plugin in the same
model, or it is about the same plugin and its parameter comes first in the order of texts, where the
fault of the plugin comes before all parameters. -/
inductive Finding.Before (w : World) (f g : Finding) : Prop where
  | model (h : w.modelIndex f.model < w.modelIndex g.model)
  | place (hmodel : f.model = g.model) (h : f.place < g.place)
  | key (hmodel : f.model = g.model) (hplace : f.place = g.place) (h : f.key? < g.key?)

/-- No finding comes before itself. -/
theorem Finding.Before.ne {w : World} {f g : Finding} (h : f.Before w g) :
  f ≠ g
  := by
  rintro rfl
  cases h with
  | model h => apply Nat.lt_irrefl _ h
  | place _ h => apply Nat.lt_irrefl _ h
  | key _ _ h =>
    cases hkey : f.key? with
    | none =>
      rw [hkey] at h
      cases h
    | some key =>
      rw [hkey] at h
      apply String.lt_irrefl key h

/-- The findings about a slot are in order. -/
theorem Slot.pairwise_findings (w : World) (x : Slot) :
  x.findings.Pairwise (Finding.Before w)
  := by
  have hstrange : (x.plugin.params.keys.filter (· ∉ Controller.Config.keys)).Pairwise (· < ·) := by
    apply List.Pairwise.filter
    exact List.pairwise_map.2 x.plugin.params.increasing
  rw [findings, Plugin.findings, List.pairwise_append]
  refine ⟨?_, ?_, ?_⟩
  · split
    · exact .nil
    · exact List.pairwise_singleton _ _
  · apply List.pairwise_map.2
    apply hstrange.imp
    intro key key' hkey
    exact .key rfl rfl hkey
  · intro f hf g hg
    obtain ⟨key, -, rfl⟩ := List.mem_map.1 hg
    split at hf
    · cases hf
    · cases List.mem_singleton.1 hf
      exact .key rfl rfl trivial

/-- The models of a valid world have their places in the order of the document. -/
theorem Valid.pairwise_modelIndex {w : World} (hw : w.Valid) :
  w.models.Pairwise fun m m' => w.modelIndex m.name < w.modelIndex m'.name
  := by
  have hindex : ∀ i (hi : i < w.models.length), w.modelIndex w.models[i].name = i := by
    intro i hi
    have hnodup := hw.distinct.idxOf_getElem i (by rw [List.length_map]; exact hi)
    rw [List.getElem_map] at hnodup
    apply hnodup
  apply List.pairwise_iff_getElem.2
  intro i j hi hj hlt
  rw [hindex, hindex]
  apply hlt

/-- A slot comes before another one in the document: its model does, or its place in the same
model. -/
inductive Slot.Before (w : World) (x y : Slot) : Prop where
  | model (h : w.modelIndex x.model.name < w.modelIndex y.model.name)
  | place (hmodel : x.model = y.model) (h : x.place < y.place)

/-- The slots of a model are in the order of their places. -/
theorem Model.pairwise_slots (w : World) (m : Model) :
  m.slots.Pairwise (Slot.Before w)
  := by
  have hplaces : (m.plugins.zipIdx.map (·.2)).Pairwise (· < ·) := by
    rw [List.zipIdx_map_snd]
    exact List.pairwise_lt_range'
  apply List.pairwise_map.2
  apply (List.pairwise_map.1 hplaces).imp
  intro _ _ hlt
  exact .place rfl hlt

/-- The slots of a valid world are in the order of the document. -/
theorem Valid.pairwise_slots {w : World} (hw : w.Valid) :
  w.slots.Pairwise (Slot.Before w)
  := by
  apply List.pairwise_flatMap.2
  refine ⟨fun m _ => m.pairwise_slots w, ?_⟩
  apply hw.pairwise_modelIndex.imp
  intro m m' hlt x hx y hy
  rw [← (Model.mem_slots_iff.1 hx).1, ← (Model.mem_slots_iff.1 hy).1] at hlt
  exact .model hlt

/-- The findings about a slot come before those about a later one. -/
theorem Slot.Before.findings {w : World} {x y : Slot} (h : x.Before w y) {f g : Finding}
    (hf : f ∈ x.findings) (hg : g ∈ y.findings) :
  f.Before w g
  := by
  obtain ⟨hfmodel, hfplace⟩ := of_mem_findings hf
  obtain ⟨hgmodel, hgplace⟩ := of_mem_findings hg
  cases h with
  | model h =>
    rw [hfmodel, hgmodel] at h
    exact .model h
  | place hmodel h =>
    rw [hfplace, hgplace] at h
    rw [← hmodel, hfmodel] at hgmodel
    exact .place hgmodel h

/-- The findings about a valid world are in the order of the document. -/
theorem Valid.pairwise_findings {w : World} (hw : w.Valid) :
  w.findings.Pairwise (Finding.Before w)
  := by
  rw [findings_eq]
  apply List.pairwise_flatMap.2
  refine ⟨fun x _ => x.pairwise_findings w, ?_⟩
  apply hw.pairwise_slots.imp
  intro x y h f hf g hg
  exact h.findings hf hg

end Servo.World
