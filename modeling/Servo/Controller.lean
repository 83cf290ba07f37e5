import Servo.Controller.Resolver
import Servo.Model
import Servo.Network
import Servo.Tick

/-!
# Controllers

A `Controller` drives one joint of a model towards the set-point in its inbox.
`Controller.ofConfig` and `Controller.ofParams` set one up and subscribe its inbox to the
topic, and `Controller.step` is its work in one tick: it finds the joint, reads the
set-point and writes one command.
-/

namespace Servo

/-- How a controller drives its joint. -/
inductive Controller.Actuation where
  /-- The set-point is the velocity that the joint is told. -/
  | velocity
  /-- A regulator turns the error of the velocity into forces. -/
  | force (r : Regulator)
  deriving DecidableEq

/-- A controller that could be configured. -/
structure Controller.Active where
  model : Entity
  resolver : Resolver
  inbox : Inbox
  actuation : Actuation
  /-- The topic of the set-points, or the text that names none. -/
  topic : String
  subscribed : Bool
  deriving DecidableEq

/-- A controller of one joint. -/
inductive Controller where
  /-- Never does anything. -/
  | disabled
  | enabled (a : Controller.Active)
  deriving DecidableEq

namespace Controller

/-- What a controller is called among the systems of a simulation. -/
def systemName : String := "joint_controller"

/-! ### Views -/

/-- The configured part, unless the controller is disabled. -/
def active? : Controller → Option Active
  | .disabled => none
  | .enabled a => some a

/-- Whether the controller could be configured. -/
def isEnabled (c : Controller) : Bool := c.active?.isSome

/-- The topic of the set-points, or the text that names none. -/
def topic? (c : Controller) : Option String := c.active?.map (·.topic)

/-- Whether the inbox is subscribed to the topic. -/
def isSubscribed (c : Controller) : Bool := c.active?.any (·.subscribed)

/-- The joint, once it has been found. -/
def joint? (c : Controller) : Option Entity := c.active?.bind (·.resolver.handle)

/-- The inbox for the set-points. -/
def inbox? (c : Controller) : Option Inbox := c.active?.map (·.inbox)

/-- The mode of an actuation. -/
def Actuation.mode : Actuation → Mode
  | .velocity => .velocity
  | .force _ => .force

/-- The regulator of an actuation by forces. -/
def Actuation.regulator? : Actuation → Option Regulator
  | .velocity => none
  | .force r => some r

/-- How the joint is driven. -/
def mode? (c : Controller) : Option Mode := c.active?.map (·.actuation.mode)

/-- The regulator, if the joint is driven by forces. -/
def regulator? (c : Controller) : Option Regulator := c.active?.bind (·.actuation.regulator?)

/-- A controller in descriptions of values. -/
def description : Controller → String
  | .disabled => "JointController(disabled)"
  | .enabled a =>
    "JointController \x7b joint: " ++ Text.quote a.resolver.name
      ++ ", handle: " ++ Entity.describeOption a.resolver.handle
      ++ ", topic: " ++ Text.quote a.topic ++ " \x7d"

/-! ### Configuration -/

/-- What becomes of an attempt to set a controller up. -/
structure Setup where
  result : Except Error Controller
  network : Network
  events : List Log.Event

/-- How a configured controller drives its joint at first. -/
def Actuation.ofConfig (c : Config) : Actuation :=
  match c.mode with
  | .velocity => .velocity
  | .force => .force { gains := c.gains }

/-- The event that notes how a joint is driven. -/
def Actuation.event : Actuation → Log.Event
  | .velocity => .velocityMode
  | .force r => .forceMode r.gains

/-- Subscribes an inbox to the topic that a text names.  The controller is also told what
the topic is called, and whether there is one. -/
def subscribe (n : Network) (topic : String) (i : Inbox) :
    (String × Bool) × Network × Log.Event :=
  match Topic.ofString topic with
  | .ok t => ((t.name, true), n.subscribe t i, .subscribed t)
  | .error e => ((topic, false), n, .subscriptionRefused topic e)

/-- A controller of a model with a given configuration. -/
def ofConfig (model : Entity) (config : Config) (s : Store) (n : Network) : Setup :=
  if ¬ s.isModel model then ⟨.error (.notModel model), n, []⟩
  else if config.joint = "" then ⟨.error (.missing Config.jointKey), n, []⟩
  else
    let actuation := Actuation.ofConfig config
    let (inbox, inboxes) := n.inboxes.add config.initialVelocity
    let topic := config.topicFor ((s.name? model).getD "")
    let ((topic, subscribed), network, event) := subscribe { n with inboxes } topic inbox
    let active : Active :=
      { model, inbox, actuation, topic, subscribed, resolver := { name := config.joint } }
    ⟨.ok (.enabled active), network, [actuation.event, event]⟩

/-- A controller of a model with the configuration that parameters give. -/
def ofParams (model : Entity) (p : Params) (s : Store) (n : Network) : Setup :=
  match Config.ofParams p with
  | .error e => ⟨.error e, n, []⟩
  | .ok config =>
    let noted :=
      if p.contains Config.initialVelocityKey then [.velocityInitialized config.initialVelocity]
      else []
    let setup := ofConfig model config s n
    { setup with events := noted ++ setup.events }

/-- A controller of a model with the configuration that parameters give; it is disabled if
they give none. -/
def configure (model : Entity) (p : Params) (s : Store) (n : Network) :
    Controller × Network × List Log.Event :=
  let setup := ofParams model p s n
  match setup.result with
  | .ok c => (c, setup.network, setup.events)
  | .error e => (.disabled, setup.network, setup.events ++ [.configurationRefused model e])

/-! ### Ticks -/

/-- What becomes of a controller and the store in one tick. -/
structure Step (α : Type) where
  controller : α
  store : Store
  outcome : Outcome
  events : List Log.Event

/-- The store with a velocity record of a joint, which is zero if it is new. -/
def withVelocity (s : Store) (joint : Entity) : Except Store.Error Store :=
  if s.hasRecord joint (.axes .velocity) then .ok s else s.put joint (.axes .velocity) [0]

/-- Writes a command of a joint. -/
def writeCommand (a : Actuation) (s : Store) (joint : Entity) (q : Quantity) (v : Float)
    (outcome : Outcome) : Step Actuation :=
  match s.setAxis joint q v with
  | .ok s => ⟨a, s, outcome, []⟩
  | .error e => ⟨a, s, .storeFault, [.commandRefused joint e]⟩

/-- Drives a joint towards a set-point. -/
def Actuation.drive (a : Actuation) (s : Store) (joint : Entity) (target dt : Float) :
    Step Actuation :=
  match withVelocity s joint with
  | .error e => ⟨a, s, .storeFault, [.recordRefused joint e]⟩
  | .ok s =>
    match a with
    | .velocity => writeCommand a s joint .velocityCommand target (.velocity target)
    | .force r =>
      match s.axis? joint .velocity with
      | none => ⟨a, s, .storeFault, [.recordEmpty joint]⟩
      | some observed =>
        let r := r.update (observed - target) dt
        writeCommand (.force r) s joint .forceCommand r.state.output (.force r.state.output)

/-- The events of looking a joint up. -/
def lookupEvents (before after : Resolver) : List Log.Event :=
  match after.handle with
  | none => [.unresolved after.name]
  | some joint => if before.isResolved then [] else [.resolved after.name joint]

/-- The work of a configured controller in one tick. -/
def Active.step (a : Active) (tick : Tick Float) (b : Inboxes) (s : Store) : Step Active :=
  let rewound := if tick.isRewind then [.rewound tick.dt] else []
  let resolver := a.resolver.resolve (s.jointNamed? a.model)
  let events := rewound ++ lookupEvents a.resolver resolver
  let a := { a with resolver }
  match resolver.handle with
  | none => ⟨a, s, .unresolved, events⟩
  | some joint =>
    if tick.paused then ⟨a, s, .paused, events⟩
    else
      let driven := a.actuation.drive s joint (b.read a.inbox) tick.dt
      ⟨{ a with actuation := driven.controller }, driven.store, driven.outcome,
        events ++ driven.events⟩

/-- The work of a controller in one tick. -/
def step (c : Controller) (tick : Tick Float) (b : Inboxes) (s : Store) : Step Controller :=
  match c with
  | .disabled => ⟨.disabled, s, .disabled, []⟩
  | .enabled a =>
    let r := a.step tick b s
    ⟨.enabled r.controller, r.store, r.outcome, r.events⟩

end Controller

end Servo
