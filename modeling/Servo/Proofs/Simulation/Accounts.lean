import Servo.CommandLine.Report
import Servo.Proofs.Simulation.JointCourse
import Servo.Proofs.Simulation.Capacity
import Servo.Proofs.World.Remarks

/-!
# What is said of the plugins of a world

The parameters of a plugin are read three times: for the findings about a world, for the list of its
models, and when it is built.  An `Account` is what is said of a plugin.  `accounts_agree` says that
the texts of the findings and the lines of the list are put together from the same accounts, and
that these accounts are true of the controllers that are built.
-/

namespace Servo

open Controller

/-! ### What is printed -/

namespace Command

theorem describePlugin_of_error {p : World.Plugin} {e : Controller.Error}
    (h : Config.ofParams p.params = .error e) (model : String) :
  describePlugin model p = "    controller: disabled (" ++ e.message ++ ")"
  := by
  have hprefix : "    controller: disabled (" = "    controller: " ++ "disabled (" := rfl
  rw [describePlugin, h, hprefix]
  simp only [String.append_assoc]

theorem describePlugin_of_ok {p : World.Plugin} {c : Config}
    (h : Config.ofParams p.params = .ok c) (model : String) :
  describePlugin model p = "    controller: joint=" ++ c.joint ++ " mode=" ++ c.mode.name
    ++ " topic=" ++ c.topicFor model
  := by
  have hprefix : "    controller: joint=" = "    controller: " ++ "joint=" := rfl
  rw [describePlugin, h, hprefix]
  simp only [String.append_assoc]

/-- A plugin is printed to be disabled if its parameters give no configuration. -/
theorem describePlugin_disabled_iff {p : World.Plugin} (model : String) :
  (∃ reason, describePlugin model p = "    controller: disabled" ++ reason)
    ↔ ∃ e, Config.ofParams p.params = .error e
  := by
  cases h : Config.ofParams p.params with
  | error e =>
    have hprefix : "    controller: disabled (" = "    controller: disabled" ++ " (" := rfl
    rw [describePlugin_of_error h, hprefix]
    simp only [String.append_assoc]
    exact ⟨fun _ => ⟨e, rfl⟩, fun _ => ⟨_, rfl⟩⟩
  | ok c =>
    rw [describePlugin_of_ok h]
    constructor
    · -- The two texts differ in the first letter after the colon.
      rintro ⟨reason, hreason⟩
      have hchars := congrArg (fun s => s.toList[16]?) hreason
      simp only [String.append_assoc] at hchars
      simp at hchars
    · nofun

end Command

namespace Simulation

/-! ### What is built -/

theorem mode_ofConfig (c : Config) :
  (Actuation.ofConfig c).mode = c.mode
  := by
  rw [Actuation.ofConfig]
  cases c.mode <;> rfl

namespace Assembly

variable {n : Network} {model : Entity} {name : String} {p : World.Plugin} {y : Fate}

/-- A plugin whose parameters give no configuration was disabled, and the log says why. -/
theorem Configured.disabled (h : Configured n model name p y) {e : Controller.Error}
    (hp : Config.ofParams p.params = .error e) :
  y.controller = .disabled ∧ y.events.filterMap Log.Event.refusal? = [e]
  := by
  obtain ⟨s, before, -, -, -, -, hcontroller, hevents⟩ := h
  rw [hcontroller, hevents]
  exact ⟨(configure_of_error hp model s before).1, refusals_configure_of_error hp model s before⟩

/-- A plugin whose parameters give a configuration became a controller that has its joint and its
mode and follows its topic, and the log says nothing of an error. -/
theorem Configured.enabled (h : Configured n model name p y) {c : Config}
    (hp : Config.ofParams p.params = .ok c) :
  (∃ a, y.controller = .enabled a ∧ a.resolver.name = c.joint ∧ a.actuation.mode = c.mode
      ∧ a.Follows n (c.topicFor name))
    ∧ y.events.filterMap Log.Event.refusal? = []
  := by
  have hinstalled := h.installedAs
  obtain ⟨s, before, hmodel, hname, hclosed, hgrows, hcontroller, hevents⟩ := h
  rw [InstalledAs, hp] at hinstalled
  obtain ⟨a, ha, hinstalled⟩ := hinstalled
  have hfollows := follows_of_configure hp hmodel hname hclosed (hcontroller ▸ ha)
  constructor
  · refine ⟨a, ha, ?_, ?_, hfollows.grows hgrows⟩
    · rw [hinstalled.resolver]
    · rw [hinstalled.actuation, mode_ofConfig]
  · rw [hevents, refusals_configure_of_ok hp hmodel]

/-- This became of a slot on the way to a network. -/
def Settles (network : Network) (x : World.Slot) (y : Fate) : Prop :=
  ∃ model, Configured network model x.model.name x.plugin y

/-- The plugins of a model become controllers. -/
theorem fates_addModel {a b : Assembly} {m : World.Model} (hclosed : a.network.Closed)
    (h : a.addModel m = .ok b) :
  b.network.Closed ∧ a.network.Grows b.network
    ∧ ∃ ys : List Fate, b.controllers = a.controllers ++ ys.map (·.controller)
      ∧ b.events = a.events ++ ys.flatMap (·.events)
      ∧ List.Forall₂ (Settles b.network) m.slots ys
  := by
  obtain ⟨hclosed', hgrows, x, ys, rfl, -, hcontrollers, hevents, hfates⟩ :=
    addModel_eq_ok hclosed h
  refine ⟨hclosed', hgrows, ys, hcontrollers, hevents, ?_⟩
  apply List.forall₂_map_left_iff.2
  rw [← List.zipIdx_map_fst 0 x.model.plugins] at hfates
  apply (List.forall₂_map_left_iff.1 hfates).imp
  intro _ y hy
  exact ⟨x.entity, hy⟩

/-- The plugins of models become controllers, model by model. -/
theorem fates_foldlM {models : List World.Model} {a b : Assembly} (hclosed : a.network.Closed)
    (h : models.foldlM Assembly.addModel a = .ok b) :
  a.network.Grows b.network
    ∧ ∃ ys : List Fate, b.controllers = a.controllers ++ ys.map (·.controller)
      ∧ b.events = a.events ++ ys.flatMap (·.events)
      ∧ List.Forall₂ (Settles b.network) (models.flatMap World.Model.slots) ys
  := by
  induction models generalizing a with
  | nil =>
    cases h
    exact ⟨.refl _, [], (List.append_nil _).symm, (List.append_nil _).symm, .nil⟩
  | cons m rest ih =>
    rw [List.foldlM_cons] at h
    obtain ⟨c, hm, h⟩ := eq_ok_of_bind h
    obtain ⟨hclosed', hgrows, ys, hcontrollers, hevents, hfirst⟩ := fates_addModel hclosed hm
    obtain ⟨hgrows', zs, hcontrollers', hevents', hlater⟩ := ih hclosed' h
    refine ⟨hgrows.trans hgrows', ys ++ zs, ?_, ?_, ?_⟩
    · rw [hcontrollers', hcontrollers, List.append_assoc, List.map_append]
    · rw [hevents', hevents, List.append_assoc, List.flatMap_append]
    · rw [List.flatMap_cons]
      apply List.rel_append _ hlater
      apply hfirst.imp
      rintro x y ⟨model, hy⟩
      exact ⟨model, hy.grows hgrows'⟩

end Assembly

/-- The slots of a world become controllers, with the dynamics after them. -/
theorem fates_of_ofWorld {w : World} {b : Built} (h : ofWorld w = .ok b) :
  ∃ ys : List Assembly.Fate,
    b.simulation.systems = ys.map (fun y => .controller y.controller)
        ++ [.dynamics (dynamicsOf w.physics)]
      ∧ b.events = ys.flatMap (·.events)
        ++ b.simulation.systems.map (fun system => .systemAdded system.name)
        ++ [.worldBuilt w.name w.models.length ys.length]
      ∧ List.Forall₂ (Assembly.Settles b.simulation.network) w.slots ys
  := by
  obtain ⟨-, a, hmodels, hsimulation, -, hevents⟩ := assembly_of_ofWorld h
  obtain ⟨-, ys, hcontrollers, hlogged, hfates⟩ :=
    Assembly.fates_foldlM Assembly.mirrors_empty.closed hmodels
  rw [List.nil_append] at hcontrollers hlogged
  refine ⟨ys, ?_, ?_, ?_⟩
  · rw [hsimulation, Assembly.systems, hcontrollers, List.map_map]
    rfl
  · rw [hevents, hlogged, hcontrollers, List.length_map]
  · rw [hsimulation]
    apply hfates

/-! ### Accounts -/

/-- What is said of a slot of a world. -/
structure Account where
  slot : World.Slot
  /-- Why the slot is disabled, if it is. -/
  error? : Option Controller.Error
  /-- The line about the slot in the list of the models. -/
  line : String

namespace Account

/-- How a text about a slot begins. -/
def caption (x : World.Slot) : String :=
  "model '" ++ x.model.name ++ "' plugin #" ++ toString x.place ++ ": "

/-- The text that a slot is disabled. -/
def refusal (x : World.Slot) (e : Controller.Error) : String :=
  caption x ++ e.message ++ "; controller will be disabled"

/-- The text that a parameter of a slot means nothing. -/
def unknown (x : World.Slot) (key : String) : String :=
  caption x ++ "unrecognized parameter '" ++ key ++ "'"

/-- The texts about a slot: that it is disabled, if it is, and then the parameters that mean
nothing, which are in the order of texts. -/
def remarks (a : Account) : List String :=
  a.error?.toList.map (refusal a.slot)
    ++ (a.slot.plugin.params.keys.filter (· ∉ Config.keys)).map (unknown a.slot)

/-- The list of the models of a world, with a line about each slot below its model. -/
def listing (w : World) (accounts : List Account) : List String :=
  if w.models.isEmpty then ["No models found in world"]
  else ("Models in world '" ++ w.name ++ "':") :: w.models.flatMap fun m =>
    ("  " ++ m.name ++ " (" ++ toString m.joints.length ++ " joints)")
      :: (accounts.filter (·.slot.model.name = m.name)).map (·.line)

/-- An account is what is found about its slot. -/
structure Holds (w : World) (a : Account) : Prop where
  /-- Its error is the one that is found. -/
  found : ∀ e, .disabled a.slot.model.name a.slot.place e ∈ w.findings ↔ a.error? = some e
  /-- A text that the slot is disabled for an error of some parameters is given exactly if it has an
  error. -/
  refused : (∃ p e, Config.ofParams p = .error e
      ∧ refusal a.slot e ∈ w.findings.map World.Finding.message) ↔ ∃ e, a.error? = some e
  /-- The wording in this text is that of its error. -/
  worded : ∀ p e, Config.ofParams p = .error e →
    (refusal a.slot e ∈ w.findings.map World.Finding.message
      ↔ ∃ e', a.error? = some e' ∧ e'.message = e.message)
  /-- The parameters that are found are those that mean nothing. -/
  strange : ∀ key, .unrecognized a.slot.model.name a.slot.place key ∈ w.findings
    ↔ key ∈ a.slot.plugin.params.keys ∧ key ∉ Config.keys
  /-- The slot is listed as disabled exactly if it has an error. -/
  listed : (∃ reason, a.line = "    controller: disabled" ++ reason) ↔ ∃ e, a.error? = some e
  /-- It is listed with this error. -/
  reason : ∀ e, a.error? = some e → a.line = "    controller: disabled (" ++ e.message ++ ")"

/-- An account agrees with what became of its slot on the way to a network. -/
structure Agrees (n : Network) (a : Account) (y : Assembly.Fate) : Prop where
  /-- The controller is disabled exactly if the slot has an error. -/
  disabled : y.controller = .disabled ↔ ∃ e, a.error? = some e
  /-- This error was logged, and no other was. -/
  logged : y.events.filterMap Log.Event.refusal? = a.error?.toList
  /-- The joint and the mode that are listed are those of the controller, and it takes its
  set-points from the topic that is listed. -/
  enabled : ∀ c, y.controller = .enabled c → ∃ topic, c.Follows n topic
    ∧ a.line = "    controller: joint=" ++ c.resolver.name
      ++ " mode=" ++ (if c.actuation.mode = .velocity then "velocity" else "force")
      ++ " topic=" ++ topic

/-- The account of a slot, as its parameters tell it. -/
def ofSlot (x : World.Slot) : Account where
  slot := x
  error? :=
    match Config.ofParams x.plugin.params with
    | .ok _ => none
    | .error e => some e
  line := Command.describePlugin x.model.name x.plugin

theorem error?_ofSlot {x : World.Slot} {e : Controller.Error} :
  (ofSlot x).error? = some e ↔ Config.ofParams x.plugin.params = .error e
  := by
  rw [ofSlot]
  cases Config.ofParams x.plugin.params <;> simp

theorem error?_ofSlot_of_ok {x : World.Slot} {c : Config}
    (h : Config.ofParams x.plugin.params = .ok c) :
  (ofSlot x).error? = none
  := by
  rw [ofSlot, h]

/-- The account of a slot of a valid world is what is found about it. -/
theorem holds_ofSlot {w : World} (hw : w.Valid) {x : World.Slot} (hx : x ∈ w.slots) :
  (ofSlot x).Holds w
  := by
  have hworded : ∀ p e, Config.ofParams p = .error e →
      (refusal x e ∈ w.findings.map World.Finding.message
        ↔ ∃ e', (ofSlot x).error? = some e' ∧ e'.message = e.message) := by
    intro p e he
    simp only [error?_ofSlot]
    apply hw.message_mem_findings_iff hx (Config.worded_of_ofParams he)
  constructor
  case found =>
    intro e
    rw [error?_ofSlot]
    apply hw.disabled_mem_findings_iff hx
  case refused =>
    constructor
    · rintro ⟨p, e, he, hmem⟩
      obtain ⟨e', he', -⟩ := (hworded p e he).1 hmem
      use e', he'
    · rintro ⟨e, he⟩
      have hparams := error?_ofSlot.1 he
      use x.plugin.params, e, hparams
      apply (hworded _ e hparams).2 ⟨e, he, rfl⟩
  case worded => exact hworded
  case strange => exact fun _ => hw.unrecognized_mem_findings_iff hx
  case listed =>
    simp only [error?_ofSlot]
    apply Command.describePlugin_disabled_iff
  case reason =>
    intro e he
    apply Command.describePlugin_of_error (error?_ofSlot.1 he)

/-- The account of a slot agrees with what became of it. -/
theorem agrees_ofSlot {n : Network} {x : World.Slot} {y : Assembly.Fate}
    (h : Assembly.Settles n x y) :
  (ofSlot x).Agrees n y
  := by
  obtain ⟨owner, hy⟩ := h
  cases hp : Config.ofParams x.plugin.params with
  | error e =>
    have herror := error?_ofSlot.2 hp
    obtain ⟨hdisabled, hrefusals⟩ := hy.disabled hp
    constructor
    case disabled => exact iff_of_true hdisabled ⟨e, herror⟩
    case logged => rw [hrefusals, herror]; rfl
    case enabled =>
      intro c hc
      rw [hdisabled] at hc
      cases hc
  | ok config =>
    have herror := error?_ofSlot_of_ok hp
    obtain ⟨⟨c, hc, hjoint, hmode, hfollows⟩, hrefusals⟩ := hy.enabled hp
    constructor
    case disabled =>
      rw [hc, herror]
      exact iff_of_false nofun nofun
    case logged => rw [hrefusals, herror]; rfl
    case enabled =>
      intro c' hc'
      cases hc.symm.trans hc'
      use config.topicFor x.model.name, hfollows
      rw [hjoint, hmode]
      apply (Command.describePlugin_of_ok hp _).trans
      cases config.mode <;> rfl

/-- The texts of the findings about a slot are those of its account. -/
theorem remarks_ofSlot (x : World.Slot) :
  (ofSlot x).remarks = x.findings.map World.Finding.message
  := by
  have hunknown : unknown x = World.Finding.message ∘ .unrecognized x.model.name x.place := by
    have hword : ": unrecognized parameter '" = ": " ++ "unrecognized parameter '" := rfl
    funext key
    simp only [unknown, caption, Function.comp_apply, World.Finding.message, hword,
      String.append_assoc]
  rw [World.Slot.findings, World.Plugin.findings, List.map_append, List.map_map, ← hunknown]
  apply congrArg (· ++ _)
  rw [ofSlot]
  cases Config.ofParams x.plugin.params <;> rfl

/-- The list of the models of a valid world has the line of the account of each slot. -/
theorem listing_ofSlot {w : World} (hw : w.Valid) :
  listing w (w.slots.map ofSlot) = Command.describeModels w
  := by
  have hlines : ∀ m ∈ w.models,
      ((w.slots.map ofSlot).filter (·.slot.model.name = m.name)).map (·.line)
        = m.plugins.map (Command.describePlugin m.name) := by
    intro m hm
    let describe (x : World.Slot) := Command.describePlugin x.model.name x.plugin
    calc ((w.slots.map ofSlot).filter (·.slot.model.name = m.name)).map (·.line)
        = (w.slots.filter (·.model.name = m.name)).map describe := by
          rw [List.filter_map, List.map_map]
          rfl
      _ = m.slots.map describe := by rw [hw.filter_slots hm]
      _ = (m.plugins.zipIdx.map (·.1)).map (Command.describePlugin m.name) := by
          rw [World.Model.slots, List.map_map, List.map_map]
          rfl
      _ = m.plugins.map (Command.describePlugin m.name) := by rw [List.zipIdx_map_fst]
  rw [listing, Command.describeModels]
  split
  · rfl
  · apply congrArg
    apply List.flatMap_congr
    intro m hm
    rw [hlines m hm, Command.describeModel]

end Account

/-- All accounts of the plugins of a valid world agree.  The texts of the findings are, plugin by
plugin in the order of the document, first its error and then the parameters that mean nothing in
the order of texts, and there are none exactly if nothing is wrong with any plugin.  When the models
are listed, there is a line about each plugin below its model.  The world is built, or it needs more
entities than there are.  Each plugin then became a controller, in the same order, which is disabled
exactly if an error is found and listed, for the same error; otherwise its joint, its mode and its
topic are those that are listed. -/
theorem accounts_agree {w : World} (hw : w.fault? = none) (path : String) :
  (w.findings.map World.Finding.message = [] ↔ ∀ m ∈ w.models, ∀ p ∈ m.plugins, p.Sound)
    ∧ w.findings.Pairwise (World.Finding.Before w) ∧ w.findings.Nodup
    ∧ ∃ accounts : List Account, accounts.map (·.slot) = w.slots
      ∧ (∀ a ∈ accounts, a.Holds w)
      ∧ w.findings.map World.Finding.message = accounts.flatMap Account.remarks
      ∧ ((Command.models path).performOn w).printed
        = String.join ((Account.listing w accounts).map (· ++ "\n"))
      ∧ ((Entity.capacity < w.size ∧ ofWorld w = .error (.store .exhausted))
        ∨ ∃ b ys, ofWorld w = .ok b
          ∧ b.simulation.systems = ys.map (fun y => .controller y.controller)
            ++ [.dynamics (dynamicsOf w.physics)]
          ∧ b.events = ys.flatMap (·.events)
            ++ b.simulation.systems.map (fun system => .systemAdded system.name)
            ++ [.worldBuilt w.name w.models.length ys.length]
          ∧ List.Forall₂ (Account.Agrees b.simulation.network) accounts ys)
  := by
  have hvalid := World.fault?_eq_none_iff.1 hw
  refine ⟨?_, hvalid.pairwise_findings, hvalid.pairwise_findings.imp World.Finding.Before.ne,
    w.slots.map Account.ofSlot, ?_, ?_, ?_, ?_, ?_⟩
  · rw [List.map_eq_nil_iff]
    apply World.findings_eq_nil_iff
  · rw [List.map_map]
    apply List.map_id
  · intro a ha
    obtain ⟨x, hx, rfl⟩ := List.mem_map.1 ha
    apply Account.holds_ofSlot hvalid hx
  · rw [World.findings_eq, List.map_flatMap, List.flatMap_map]
    simp only [Account.remarks_ofSlot]
  · rw [Account.listing_ofSlot hvalid]
    rfl
  · rcases ofWorld_of_valid hvalid with hfull | ⟨b, hb⟩
    · exact .inl hfull
    · right
      obtain ⟨ys, hsystems, hevents, hfates⟩ := fates_of_ofWorld hb
      refine ⟨b, ys, hb, hsystems, hevents, ?_⟩
      apply List.forall₂_map_left_iff.2
      apply hfates.imp
      intro x y hy
      apply Account.agrees_ofSlot hy

/-- A cart with three controllers: one on the topic `/go`, one without a joint and with a parameter
that means nothing, and one whose topic is none. -/
def motleyCart : World where
  version := 1
  name := "bench"
  models := [{
    name := "cart"
    joints := [{ name := "wheel" }]
    plugins := [
      { kind := .jointController
        params := .ofList [("joint_name", .text "wheel"), ("use_force_commands", .bool true),
          ("topic", .text "go")] },
      { kind := .jointController, params := .ofList [("speed", .int 3)] },
      { kind := .jointController
        params := .ofList [("joint_name", .text "wheel"), ("topic", .text "no topic")] }] }]

/-- The second controller of the cart is disabled, and the findings and the list say so; the others
are not. -/
theorem accounts_agree_motleyCart :
  motleyCart.fault? = none
    ∧ motleyCart.findings.map World.Finding.message =
      ["model 'cart' plugin #1: Missing required parameter: joint_name; "
          ++ "controller will be disabled",
        "model 'cart' plugin #1: unrecognized parameter 'speed'"]
    ∧ ((Command.models "bench.yaml").performOn motleyCart).printed =
      "Models in world 'bench':\n"
        ++ "  cart (1 joints)\n"
        ++ "    controller: joint=wheel mode=force topic=go\n"
        ++ "    controller: disabled (Missing required parameter: joint_name)\n"
        ++ "    controller: joint=wheel mode=velocity topic=no topic\n"
    ∧ ∃ b x y z, ofWorld motleyCart = .ok b
      ∧ b.simulation.systems = [.controller x, .controller y, .controller z, .dynamics ⟨1, 0⟩]
      ∧ x ≠ .disabled ∧ y = .disabled ∧ z ≠ .disabled
      ∧ b.events.filterMap Log.Event.refusal? = [.missing "joint_name"]
  := by
  have hworld : motleyCart.fault? = none := by decide +kernel
  have hsize : ¬ Entity.capacity < motleyCart.size := by decide +kernel
  have hfindings : motleyCart.findings =
      [.disabled "cart" 1 (.missing "joint_name"), .unrecognized "cart" 1 "speed"] := by
    decide +kernel
  refine ⟨hworld, by decide +kernel, by decide +kernel, ?_⟩
  obtain ⟨-, -, -, accounts, hslots, hholds, -, -, hbuilt⟩ := accounts_agree hworld "bench.yaml"
  obtain hfull | ⟨b, ys, hb, hsystems, hevents, hagree⟩ := hbuilt
  · exact absurd hfull.1 hsize
  · have hplaces : accounts.map (fun a => (a.slot.model.name, a.slot.place))
        = [("cart", 0), ("cart", 1), ("cart", 2)] := by
      have hplaces := congrArg (List.map fun x => (x.model.name, x.place)) hslots
      rw [List.map_map] at hplaces
      apply hplaces.trans
      rfl
    obtain ⟨first, _, rfl, hfirst, hplaces⟩ := List.map_eq_cons_iff.1 hplaces
    obtain ⟨second, _, rfl, hsecond, hplaces⟩ := List.map_eq_cons_iff.1 hplaces
    obtain ⟨third, _, rfl, hthird, hplaces⟩ := List.map_eq_cons_iff.1 hplaces
    cases List.map_eq_nil_iff.1 hplaces
    obtain ⟨x, _, hx, hlater, rfl⟩ := List.forall₂_cons_left_iff.1 hagree
    obtain ⟨y, _, hy, hlast, rfl⟩ := List.forall₂_cons_left_iff.1 hlater
    obtain ⟨z, _, hz, hnone, rfl⟩ := List.forall₂_cons_left_iff.1 hlast
    cases List.forall₂_nil_left_iff.1 hnone
    have hfound : ∀ a ∈ [first, second, third], ∀ e, a.error? = some e ↔
        a.slot.place = 1 ∧ a.slot.model.name = "cart" ∧ e = .missing "joint_name" := by
      intro a ha e
      rw [← (hholds a ha).found, hfindings]
      simp [and_left_comm]
    simp only [Prod.mk.injEq] at hfirst hsecond hthird
    have hnofirst : first.error? = none := by
      apply Option.eq_none_iff_forall_ne_some.2
      intro e
      simp [hfound, hfirst]
    have herror : second.error? = some (.missing "joint_name") := by
      simp [hfound, hsecond]
    have hnothird : third.error? = none := by
      apply Option.eq_none_iff_forall_ne_some.2
      intro e
      simp [hfound, hthird]
    refine ⟨b, _, _, _, hb, hsystems, ?_, hy.disabled.2 ⟨_, herror⟩, ?_, ?_⟩
    · rw [ne_eq, hx.disabled, hnofirst]
      nofun
    · rw [ne_eq, hz.disabled, hnothird]
      nofun
    · rw [hevents, hsystems]
      simp [hx.logged, hy.logged, hz.logged, hnofirst, herror, hnothird, Log.Event.refusal?]

end Simulation

end Servo
