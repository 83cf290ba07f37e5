import Servo.Controller.Config
import Servo.Controller.Outcome
import Servo.Store
import Servo.Topic

/-!
# The log

An `Event` is something worth noting that happens while a simulation is set up or run.  It
has a level of importance, a message and named fields, which `Event.level`,
`Event.message` and `Event.fields` derive from what happened.
-/

namespace Servo.Log

/-- How important an event is, the most important first. -/
inductive Level where
  | error
  | warn
  | info
  | debug
  | trace
  deriving DecidableEq, Repr

namespace Level

/-- The place of a level, from the most important one. -/
def rank : Level → Nat
  | .error => 0
  | .warn => 1
  | .info => 2
  | .debug => 3
  | .trace => 4

/-- Whether a log at this level shows events of another level. -/
def shows (l other : Level) : Bool := other.rank ≤ l.rank

/-- The name of a level. -/
def name : Level → String
  | .error => "ERROR"
  | .warn => "WARN"
  | .info => "INFO"
  | .debug => "DEBUG"
  | .trace => "TRACE"

end Level

/-- The value of a field. -/
inductive Field where
  | number (x : Float)
  | text (s : String)

/-- Something worth noting. -/
inductive Event where
  /-- A message reached the subscribers of a topic. -/
  | delivered (topic : Topic) (value : Float) (reached : Nat)
  /-- A controller found its joint. -/
  | resolved (joint : String) (e : Entity)
  /-- A controller did not find its joint. -/
  | unresolved (joint : String)
  /-- The clock jumped back. -/
  | rewound (dt : Float)
  /-- A joint without a velocity record cannot be given one. -/
  | recordRefused (joint : Entity) (e : Store.Error)
  /-- The velocity record of a joint has no axes. -/
  | recordEmpty (joint : Entity)
  /-- A command for a joint cannot be written. -/
  | commandRefused (joint : Entity) (e : Store.Error)
  /-- A controller has finished a tick. -/
  | ticked (outcome : Controller.Outcome)
  /-- A controller drives its joint by forces. -/
  | forceMode (gains : Gains)
  /-- A controller drives its joint by velocities. -/
  | velocityMode
  /-- A controller subscribed to a topic. -/
  | subscribed (topic : Topic)
  /-- A controller cannot subscribe to its topic. -/
  | subscriptionRefused (topic : String) (e : Topic.Error)
  /-- The first set-point of a controller was given. -/
  | velocityInitialized (v : Float)
  /-- A controller of a model cannot be configured. -/
  | configurationRefused (model : Entity) (e : Controller.Error)
  /-- A simulation got one more system. -/
  | systemAdded (name : String)
  /-- A simulation was built from a world. -/
  | worldBuilt (world : String) (models controllers : Nat)
  /-- A scheduled command reached nobody. -/
  | unheard (topic : String)
  /-- A simulation of a world starts. -/
  | running (world : String) (dt tEnd : Float)

namespace Event

/-- How important an event is. -/
def level : Event → Level
  | .delivered .. | .unresolved .. | .ticked .. => .trace
  | .resolved .. | .recordRefused .. | .recordEmpty .. | .commandRefused .. | .forceMode ..
  | .velocityMode | .systemAdded .. => .debug
  | .subscribed .. | .velocityInitialized .. | .worldBuilt .. | .running .. => .info
  | .rewound .. | .unheard .. => .warn
  | .subscriptionRefused .. | .configurationRefused .. => .error

/-- The wording of an event. -/
def message : Event → String
  | .delivered .. => "deliver"
  | .resolved .. => "actuator resolved"
  | .unresolved .. => "joint not found"
  | .rewound dt =>
    "Detected jump back in time [" ++ Layout.message.write dt
      ++ "s]. System may not work properly."
  | .recordRefused _ e => "cannot create joint velocity record: " ++ e.message
  | .recordEmpty _ => "joint velocity record has no axes"
  | .commandRefused _ e => "cannot write joint command: " ++ e.message
  | .ticked .. => "joint controller tick"
  | .forceMode .. => "[JointController] Force mode"
  | .velocityMode => "[JointController] Velocity mode"
  | .subscribed topic => "JointController subscribing to Double messages on [" ++ topic.name ++ "]"
  | .subscriptionRefused topic e =>
    "JointController failed to subscribe to [" ++ topic ++ "]: " ++ e.message
  | .velocityInitialized v => "Joint velocity initialized to [" ++ Layout.message.write v ++ "]"
  | .configurationRefused _ e => "JointController failed to initialize: " ++ e.message
  | .systemAdded _ => "system added"
  | .worldBuilt .. => "world built"
  | .unheard _ => "scheduled command has no subscriber"
  | .running world _ _ => "running world '" ++ world ++ "'"

/-- The gains and limits of a regulator, by their names as parameters. -/
def gainFields (g : Gains) : List (String × Field) :=
  [("p_gain", .number g.proportional), ("i_gain", .number g.integral),
    ("d_gain", .number g.derivative), ("i_max", .number g.integralMax),
    ("i_min", .number g.integralMin), ("cmd_max", .number g.commandMax),
    ("cmd_min", .number g.commandMin), ("cmd_offset", .number g.offset)]

/-- The named fields of an event. -/
def fields : Event → List (String × Field)
  | .delivered topic value reached =>
    [("topic", .text topic.name), ("data", .number value),
      ("subscribers", .text (toString reached))]
  | .resolved joint e => [("joint", .text joint), ("entity", .text e.message)]
  | .unresolved joint => [("joint", .text joint)]
  | .recordRefused joint _ => [("joint", .text joint.message)]
  | .recordEmpty joint => [("joint", .text joint.message)]
  | .commandRefused joint _ => [("joint", .text joint.message)]
  | .ticked outcome => [("outcome", .text outcome.description)]
  | .forceMode g => gainFields g
  | .configurationRefused model _ => [("model_entity", .text model.message)]
  | .systemAdded name => [("system", .text name)]
  | .worldBuilt world models controllers =>
    [("world", .text world), ("models", .text (toString models)),
      ("controllers", .text (toString controllers))]
  | .unheard topic => [("topic", .text topic)]
  | .running _ dt tEnd => [("dt", .number dt), ("t_end", .number tEnd)]
  | .rewound _ | .velocityMode | .subscribed _ | .subscriptionRefused ..
  | .velocityInitialized _ => []

end Event

end Servo.Log
