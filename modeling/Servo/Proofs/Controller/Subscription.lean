import Servo.Proofs.Controller.Setup
import Servo.Proofs.Store.Edit
import Servo.Simulation

/-!
# The subscription of a new controller

Parameters set a controller up, or they are `Refused`.  A controller that is set up is `Fresh`: it
has found no joint and it listens with a new inbox, which is the only thing that is added to the
network.  `setUp_or_refused` says so, and that a refusal adds nothing at all.
-/

namespace Servo

theorem Store.isModel_iff {s : Store} {e : Entity} :
  s.isModel e = true ↔ s.get? e .model ≠ none
  := by
  rw [isModel, hasRecord, Option.isSome_iff_ne_none]

namespace Controller

/-! ### Refusals and fresh controllers -/

/-- The error for which an entity of a store gets no controller from parameters: they give no
configuration, or they give one and the entity has no record of a model. -/
def Refused (model : Entity) (p : Params) (s : Store) (e : Error) : Prop :=
  Config.ofParams p = .error e
    ∨ (∃ c, Config.ofParams p = .ok c) ∧ s.get? model .model = none ∧ e = .notModel model

/-- A new controller with the configuration `c` takes its set-points from the topic that a text
names, with a new inbox that makes `n'` of the network `n`.  If the text names no topic, then the
bus stays as it is. -/
structure Fresh (n n' : Network) (model : Entity) (c : Config) (text : String) (a : Active) :
    Prop where
  model : a.model = model
  unresolved : a.resolver = { name := c.joint, handle := none }
  velocity : c.mode = .velocity → a.actuation = .velocity
  force : c.mode = .force → a.actuation = .force { gains := c.gains, state := ⟨0, 0, 0, 0⟩ }
  inbox : (a.inbox, n'.inboxes) = n.inboxes.add c.initialVelocity
  initial : n'.inboxes.read a.inbox = c.initialVelocity
  named : ∀ t, Topic.ofString text = .ok t → a.topic = t.name ∧ a.subscribed = true
    ∧ n'.bus.subscriptions = n.bus.subscriptions ++ [(t, a.inbox)]
  unnamed : ∀ e, Topic.ofString text = .error e → a.topic = text ∧ a.subscribed = false
    ∧ n'.bus = n.bus

/-! ### Setting up with a configuration -/

theorem ofConfig_of_not_model {model : Entity} {s : Store} (h : s.get? model .model = none)
    (c : Config) (n : Network) :
  ofConfig model c s n = ⟨.error (.notModel model), n, []⟩
  := by
  rw [ofConfig, if_pos]
  simpa [Store.isModel_iff] using h

@[simp]
theorem inboxes_subscribe (n : Network) (text : String) (i : Inbox) :
  (subscribe n text i).2.1.inboxes = n.inboxes
  := by
  rw [subscribe]
  split <;> rfl

/-- The controller of a model that is set up with a configuration is fresh. -/
theorem fresh_of_ofConfig {model : Entity} {c : Config} {s : Store}
    (hmodel : s.isModel model = true) (hjoint : c.joint ≠ "") (n : Network) :
  ∃ a, (ofConfig model c s n).result = .ok (.enabled a)
    ∧ Fresh n (ofConfig model c s n).network model c (c.topicFor ((s.name? model).getD "")) a
  := by
  rw [ofConfig]
  simp only [hmodel, hjoint, not_true_eq_false, if_false]
  refine ⟨_, rfl, ?_⟩
  constructor
  case model => rfl
  case unresolved => rfl
  case velocity =>
    intro h
    simp only [Actuation.ofConfig, h]
  case force =>
    intro h
    simp only [Actuation.ofConfig, h]
  case inbox => rw [inboxes_subscribe]
  case initial =>
    rw [inboxes_subscribe]
    apply (n.inboxes.read_add c.initialVelocity).1
  case named =>
    intro t ht
    simp only [subscribe, ht, true_and]
    rfl
  case unnamed =>
    intro e he
    simp only [subscribe, he, true_and]

/-! ### Setting up with parameters -/

/-- Either a fresh controller is set up, or there is an error and the network stays as it is. -/
theorem ofParams_cases (model : Entity) (p : Params) (s : Store) (n : Network) :
  let setup := ofParams model p s n
  (∃ e, setup.result = .error e ∧ setup.network = n ∧ Refused model p s e)
    ∨ ∃ c a, Config.ofParams p = .ok c ∧ s.get? model .model ≠ none
      ∧ setup.result = .ok (.enabled a)
      ∧ Fresh n setup.network model c (c.topicFor ((s.name? model).getD "")) a
  := by
  intro setup
  have hsetup : setup = ofParams model p s n := rfl
  rw [ofParams] at hsetup
  cases hc : Config.ofParams p with
  | error e =>
    left
    simp only [hc] at hsetup
    rw [hsetup]
    exact ⟨e, rfl, rfl, .inl hc⟩
  | ok c =>
    simp only [hc] at hsetup
    by_cases hmodel : s.get? model .model = none
    · left
      rw [ofConfig_of_not_model hmodel] at hsetup
      rw [hsetup]
      exact ⟨.notModel model, rfl, rfl, .inr ⟨⟨c, hc⟩, hmodel, rfl⟩⟩
    · right
      obtain ⟨a, hresult, hfresh⟩ :=
        fresh_of_ofConfig (Store.isModel_iff.2 hmodel) (Config.joint_ne_of_ofParams hc) n
      rw [hsetup]
      exact ⟨c, a, rfl, hmodel, hresult, hfresh⟩

/-- There is one error for which parameters are refused. -/
theorem Refused.unique {model : Entity} {p : Params} {s : Store} {e e' : Error}
    (h : Refused model p s e) (h' : Refused model p s e') :
  e = e'
  := by
  rcases h with h | ⟨⟨c, h⟩, -, rfl⟩ <;> rcases h' with h' | ⟨⟨c', h'⟩, -, rfl⟩
  · apply Except.error.inj (h.symm.trans h')
  · cases h.symm.trans h'
  · cases h.symm.trans h'
  · rfl

/-- Parameters that give a configuration are refused only for an entity without the record of a
model. -/
theorem Refused.get?_eq_none {model : Entity} {p : Params} {s : Store} {e : Error} {c : Config}
    (h : Refused model p s e) (hc : Config.ofParams p = .ok c) :
  s.get? model .model = none
  := by
  rcases h with h | ⟨-, h, -⟩
  · cases h.symm.trans hc
  · apply h

/-- **A set-up is all or nothing.**  It fails just with the error for which the parameters are
refused, and then the network stays as it is; or it makes a fresh controller.  A controller is
configured as it is set up; it is disabled if that fails, and then the network stays as it is, too.
A simulation to which a controller is attached keeps its store. -/
theorem setUp_or_refused (model : Entity) (p : Params) (s : Store) (n : Network) :
  let setup := ofParams model p s n
  let configured := configure model p s n
  (∀ e, setup.result = .error e ↔ Refused model p s e)
    ∧ (∀ e, setup.result = .error e → setup.network = n)
    ∧ (∀ k, setup.result = .ok k → ∃ c a, Config.ofParams p = .ok c ∧ k = .enabled a
        ∧ Fresh n setup.network model c (c.topicFor ((s.name? model).getD "")) a)
    ∧ (configured.1 = setup.result.toOption.getD .disabled ∧ configured.2.1 = setup.network)
    ∧ (configured.1 = .disabled → configured.2.1 = n)
    ∧ ∀ sim : Simulation, sim.store = s → sim.network = n →
        (sim.attach model p).1 = configured.1 ∧ (sim.attach model p).2.1.store = s
          ∧ (sim.attach model p).2.1.network = configured.2.1
  := by
  intro setup configured
  have hconfigured : configured.1 = setup.result.toOption.getD .disabled
      ∧ configured.2.1 = setup.network := configure_eq model p s n
  have hattach : ∀ sim : Simulation, sim.store = s → sim.network = n →
      (sim.attach model p).1 = configured.1 ∧ (sim.attach model p).2.1.store = s
        ∧ (sim.attach model p).2.1.network = configured.2.1 := by
    rintro sim rfl rfl
    exact ⟨rfl, rfl, rfl⟩
  rcases ofParams_cases model p s n with ⟨e, hresult, hnetwork, hrefused⟩
    | ⟨c, a, hc, hmodel, hresult, hfresh⟩
  · have hsetup : setup.result = .error e := hresult
    have hkept : setup.network = n := hnetwork
    refine ⟨?_, fun _ _ => hkept, ?_, hconfigured, ?_, hattach⟩
    · intro e'
      rw [hsetup, Except.error.injEq]
      constructor
      · rintro rfl
        apply hrefused
      · apply hrefused.unique
    · intro k hk
      cases hsetup.symm.trans hk
    · intro _
      rw [hconfigured.2, hkept]
  · have hsetup : setup.result = .ok (.enabled a) := hresult
    have henabled : configured.1 = .enabled a := by
      rw [hconfigured.1, hsetup]
      rfl
    refine ⟨?_, ?_, ?_, hconfigured, ?_, hattach⟩
    · intro e
      constructor
      · intro he
        cases hsetup.symm.trans he
      · intro hrefused
        exact absurd (hrefused.get?_eq_none hc) hmodel
    · intro e he
      cases hsetup.symm.trans he
    · intro k hk
      cases hsetup.symm.trans hk
      exact ⟨c, a, hc, rfl, hfresh⟩
    · intro hdisabled
      cases henabled.symm.trans hdisabled

/-- Parameters of a controller of `wheel`, which is driven by forces. -/
def wheelParams : Params :=
  .ofList [("joint_name", .text "wheel"), ("use_force_commands", .bool true), ("topic", .text "go")]

/-- The model `cart` gets a controller of its wheel, which is the one that listens to `go`; in a
store without the model it gets none, and nobody listens. -/
theorem setUp_or_refused_cart :
  let cart : Entity := ⟨0, Entity.capacity_pos⟩
  let store := Store.empty.edit (.spawnModel "cart")
  (∃ a, (ofParams cart wheelParams store {}).result = .ok (.enabled a)
      ∧ a.actuation = .force {}
      ∧ (ofParams cart wheelParams store {}).network.bus.subscriptions = [(⟨"/go"⟩, a.inbox)])
    ∧ (configure cart wheelParams .empty {}).2.1 = {}
  := by
  intro cart store
  constructor
  · obtain ⟨hrefused, -, hfresh, -⟩ := setUp_or_refused cart wheelParams store {}
    have hconfig : Config.ofParams wheelParams
        = .ok { joint := "wheel", mode := .force, topic := some "go" } := by
      decide +kernel
    cases hresult : (ofParams cart wheelParams store {}).result with
    | error e =>
      have hmodel : store.get? cart .model = none := ((hrefused e).1 hresult).get?_eq_none hconfig
      exact absurd hmodel (by decide +kernel)
    | ok k =>
      obtain ⟨c, a, hc, rfl, h⟩ := hfresh k hresult
      cases hconfig.symm.trans hc
      exact ⟨a, rfl, h.force rfl, (h.named ⟨"/go"⟩ (by decide)).2.2⟩
  · obtain ⟨-, -, -, -, hdisabled, -⟩ := setUp_or_refused cart wheelParams .empty {}
    apply hdisabled
    decide +kernel

end Controller

end Servo
