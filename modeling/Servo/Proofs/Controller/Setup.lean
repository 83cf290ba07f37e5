import Servo.Controller
import Servo.Proofs.Network.Growth

/-!
# Setting a controller up

`configure` makes a controller of parameters: one that is `Installed` with the configuration
that they give (`configure_of_ok`), or one that is disabled if they give none
(`configure_of_error`).
-/

namespace Servo.Controller

/-- The parameters of a configuration name a joint. -/
theorem Config.joint_ne_of_ofParams {p : Params} {c : Config} (h : Config.ofParams p = .ok c) :
  c.joint ≠ ""
  := by
  have hjoint : ∀ {name}, jointOfParams p = .ok name → name ≠ "" := by
    intro name hname
    rw [jointOfParams] at hname
    cases hread : (p.string? jointKey).mapError Error.unreadable with
    | error e =>
      rw [hread] at hname
      cases hname
    | ok found =>
      rw [hread] at hname
      cases found with
      | none => cases hname
      | some text =>
        simp only [bind, Except.bind] at hname
        split at hname
        next => cases hname
        next hne =>
          cases hname
          apply hne
  rw [ofParams] at h
  cases hname : jointOfParams p with
  | error e =>
    rw [hname] at h
    cases h
  | ok name =>
    rw [hname] at h
    simp only [bind, Except.bind] at h
    repeat' split at h
    all_goals
      cases h <;> exact hjoint hname

/-- A controller of a model with the name `name` is set up with the configuration `c`: it has
an inbox of its own, which holds the initial set-point and listens to the topic. -/
structure Installed (n : Network) (model : Entity) (name : String) (c : Config)
    (a : Active) : Prop where
  model : a.model = model
  resolver : a.resolver = { name := c.joint }
  actuation : a.actuation = Actuation.ofConfig c
  listens : n.Listens a.inbox (c.topicFor name)
  initial : n.inboxes.read a.inbox = c.initialVelocity

/-- A controller stays installed when the network grows. -/
theorem Installed.grows {n n' : Network} {model : Entity} {name : String} {c : Config}
    {a : Active} (h : Installed n model name c a) (hgrows : n.Grows n') :
  Installed n' model name c a
  := by
  constructor
  case model => apply h.model
  case resolver => apply h.resolver
  case actuation => apply h.actuation
  case listens => apply h.listens.grows hgrows
  case initial => rw [hgrows.read _ h.listens.known, h.initial]

/-- Parameters that give no configuration disable the controller, and they add nothing to the
network. -/
theorem configure_of_error {p : Params} {e : Error} (h : Config.ofParams p = .error e)
    (model : Entity) (s : Store) (n : Network) :
  (configure model p s n).1 = .disabled ∧ (configure model p s n).2.1 = n
  := by
  rw [configure, ofParams, h]
  exact ⟨rfl, rfl⟩

/-- A new inbox that is subscribed to the topic of a text, if that names one, listens to the
text; the network grows by that, and only its inboxes are subscribed. -/
theorem subscribe_of_new {n : Network} (h : n.Closed) (v : Float) (text : String) :
  let i := (n.inboxes.add v).1
  let n' := (subscribe (n.addInbox v) text i).2.1
  n'.Closed ∧ n.Grows n' ∧ n'.Listens i text ∧ n'.inboxes.read i = v
  := by
  cases ht : Topic.ofString text with
  | ok t =>
    simp only [subscribe, ht]
    apply Network.listens_subscribe_of_new h v ht
  | error e =>
    simp only [subscribe, ht]
    apply Network.listens_addInbox_of_new h v ht

/-- A configuration that names a joint makes a controller of a model that is installed with
it and has a new inbox. -/
theorem ofConfig_of_model {model : Entity} {c : Config} {s : Store}
    (hmodel : s.isModel model = true) (hjoint : c.joint ≠ "") {n : Network} (hn : n.Closed) :
  let setup := ofConfig model c s n
  setup.network.Closed ∧ n.Grows setup.network
    ∧ ∃ a, setup.result = .ok (.enabled a)
      ∧ a.inbox = (n.inboxes.add c.initialVelocity).1
      ∧ Installed setup.network model ((s.name? model).getD "") c a
  := by
  intro setup
  obtain ⟨subscribed, hsubscribed⟩ : ∃ subscribed, subscribed =
      subscribe (n.addInbox c.initialVelocity) (c.topicFor ((s.name? model).getD ""))
        (n.inboxes.add c.initialVelocity).1 := ⟨_, rfl⟩
  obtain ⟨hclosed, hgrows, hlistens, hread⟩ :=
    subscribe_of_new hn c.initialVelocity (c.topicFor ((s.name? model).getD ""))
  have hsetup : setup.network = subscribed.2.1
      ∧ setup.result = .ok (.enabled {
          model
          inbox := (n.inboxes.add c.initialVelocity).1
          actuation := Actuation.ofConfig c
          topic := subscribed.1.1
          subscribed := subscribed.1.2
          resolver := { name := c.joint } }) := by
    rw [hsubscribed]
    simp only [setup, ofConfig, hmodel, hjoint, not_true_eq_false, if_false]
    exact ⟨rfl, rfl⟩
  rw [hsetup.1, hsetup.2, hsubscribed]
  exact ⟨hclosed, hgrows, _, rfl, rfl, rfl, rfl, rfl, hlistens, hread⟩

/-- A configuration makes no controller of an entity that is no model, or without a joint, and
then it adds nothing to the network. -/
theorem ofConfig_of_refused {model : Entity} {c : Config} {s : Store}
    (h : ¬ (s.isModel model = true ∧ c.joint ≠ "")) (n : Network) :
  (∃ e, (ofConfig model c s n).result = .error e) ∧ (ofConfig model c s n).network = n
  := by
  rw [ofConfig]
  split
  · exact ⟨⟨_, rfl⟩, rfl⟩
  next hmodel =>
    split
    · exact ⟨⟨_, rfl⟩, rfl⟩
    next hjoint => exact absurd ⟨Decidable.of_not_not hmodel, hjoint⟩ h

/-- A controller is configured as it is set up, and it is disabled if that fails. -/
theorem configure_eq (model : Entity) (p : Params) (s : Store) (n : Network) :
  (configure model p s n).1 = (ofParams model p s n).result.toOption.getD .disabled
    ∧ (configure model p s n).2.1 = (ofParams model p s n).network
  := by
  rw [configure]
  cases (ofParams model p s n).result with
  | error e => exact ⟨rfl, rfl⟩
  | ok c => exact ⟨rfl, rfl⟩

/-- Parameters that give a configuration do what the configuration does. -/
theorem configure_eq_of_ok {p : Params} {c : Config} (h : Config.ofParams p = .ok c)
    (model : Entity) (s : Store) (n : Network) :
  (configure model p s n).1 = (ofConfig model c s n).result.toOption.getD .disabled
    ∧ (configure model p s n).2.1 = (ofConfig model c s n).network
  := by
  obtain ⟨hcontroller, hnetwork⟩ := configure_eq model p s n
  rw [hcontroller, hnetwork, ofParams, h]
  exact ⟨rfl, rfl⟩

/-- Parameters that give a configuration make a controller that is installed with it. -/
theorem configure_of_ok {p : Params} {c : Config} (h : Config.ofParams p = .ok c)
    {model : Entity} {s : Store} {name : String} (hmodel : s.isModel model = true)
    (hname : s.name? model = some name) {n : Network} (hn : n.Closed) :
  let n' := (configure model p s n).2.1
  n'.Closed ∧ n.Grows n'
    ∧ ∃ a, (configure model p s n).1 = .enabled a ∧ Installed n' model name c a
  := by
  obtain ⟨hcontroller, hnetwork⟩ := configure_eq_of_ok h model s n
  obtain ⟨hclosed, hgrows, a, hresult, -, hinstalled⟩ :=
    ofConfig_of_model hmodel (Config.joint_ne_of_ofParams h) hn
  rw [hname] at hinstalled
  rw [hnetwork, hcontroller, hresult]
  exact ⟨hclosed, hgrows, a, rfl, hinstalled⟩

/-- Configuring a controller of a model keeps a network closed, and the network grows. -/
theorem grows_configure (p : Params) {model : Entity} {s : Store} {name : String}
    (hmodel : s.isModel model = true) (hname : s.name? model = some name) {n : Network}
    (hn : n.Closed) :
  let n' := (configure model p s n).2.1
  n'.Closed ∧ n.Grows n'
  := by
  intro n'
  cases hp : Config.ofParams p with
  | ok c =>
    obtain ⟨hclosed, hgrows, -⟩ := configure_of_ok hp hmodel hname hn
    exact ⟨hclosed, hgrows⟩
  | error e =>
    have hsame : n' = n := (configure_of_error hp model s n).2
    rw [hsame]
    exact ⟨hn, .refl n⟩

/-! ### What is said of a set-up -/

/-- A controller takes its set-points from the topic that a text names: it knows the topic and is
subscribed to it.  If the text names no topic, then the controller knows the text itself and is not
subscribed. -/
structure Active.Follows (a : Active) (n : Network) (text : String) : Prop where
  named : ∀ t, Topic.ofString text = .ok t → a.topic = t.name ∧ a.subscribed = true
  unnamed : ∀ e, Topic.ofString text = .error e → a.topic = text ∧ a.subscribed = false
  listens : n.Listens a.inbox text

theorem Active.Follows.grows {n n' : Network} {a : Active} {text : String}
    (h : a.Follows n text) (hgrows : n.Grows n') :
  a.Follows n' text
  := ⟨h.named, h.unnamed, h.listens.grows hgrows⟩

/-- A controller that is made of parameters follows the topic of their configuration. -/
theorem follows_of_configure {p : Params} {c : Config} (h : Config.ofParams p = .ok c)
    {model : Entity} {s : Store} {name : String} (hmodel : s.isModel model = true)
    (hname : s.name? model = some name) {n : Network} (hn : n.Closed) {a : Active}
    (ha : (configure model p s n).1 = .enabled a) :
  a.Follows (configure model p s n).2.1 (c.topicFor name)
  := by
  obtain ⟨-, -, a', ha', hinstalled⟩ := configure_of_ok h hmodel hname hn
  obtain rfl : a' = a := by
    rw [ha'] at ha
    cases ha
    rfl
  rw [(configure_eq_of_ok h model s n).1, ofConfig] at ha
  simp only [hmodel, Config.joint_ne_of_ofParams h, hname, not_true_eq_false, if_false] at ha
  cases ha
  constructor
  case named =>
    intro t ht
    simp only [subscribe, Option.getD_some, ht, and_self]
  case unnamed =>
    intro e he
    simp only [subscribe, Option.getD_some, he, and_self]
  case listens => apply hinstalled.listens

end Servo.Controller

namespace Servo

/-- Why a controller cannot be configured, if an event says so. -/
def Log.Event.refusal? : Log.Event → Option Controller.Error
  | .configurationRefused _ e => some e
  | _ => none

namespace Controller

/-- If parameters give no configuration, then the log says why. -/
theorem refusals_configure_of_error {p : Params} {e : Error} (h : Config.ofParams p = .error e)
    (model : Entity) (s : Store) (n : Network) :
  (configure model p s n).2.2.filterMap Log.Event.refusal? = [e]
  := by
  rw [configure, ofParams, h]
  rfl

/-- If the parameters of a model give a configuration, then the log says nothing of the kind. -/
theorem refusals_configure_of_ok {p : Params} {c : Config} (h : Config.ofParams p = .ok c)
    {model : Entity} {s : Store} (hmodel : s.isModel model = true) (n : Network) :
  (configure model p s n).2.2.filterMap Log.Event.refusal? = []
  := by
  rw [configure, ofParams, h]
  simp only [ofConfig, hmodel, Config.joint_ne_of_ofParams h, not_true_eq_false, if_false,
    Actuation.event, subscribe]
  split <;> split <;> split <;> rfl

end Controller

end Servo
