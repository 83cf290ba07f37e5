import Mathlib.Data.List.Induction
import Servo.Proofs.Controller.Setup
import Servo.Proofs.Controller.Tick
import Servo.Proofs.Store.Edit

/-!
# Controllers on one network

A `Fleet` are controllers that share a network, and `Fleet.after` is what a history of
operations makes of it: controllers are set up, messages are published, inboxes are written,
others subscribe, and controllers work, in any order.  `aimsAt_latest` says that a controller
always aims at the latest set-point that was meant for it (`latest`).
-/

namespace Servo

open Controller

namespace Controller

/-- With the set-points in given inboxes a controller aims at `u`: its inbox holds `u`, its
ticks depend on no other inbox, the velocity that it tells its joint is `u`, and the error that
its regulator is given is the distance from `u`. -/
structure AimsAt (c : Controller) (b : Inboxes) (u : Float) : Prop where
  inbox : c.inbox?.map b.read = some u
  alone : ∀ {b'}, c.inbox?.map b'.read = some u → ∀ tick s, c.step tick b' s = c.step tick b s
  velocity : ∀ {tick s v}, (c.step tick b s).outcome = .velocity v → v = u
  force : ∀ {tick s f}, (c.step tick b s).outcome = .force f →
    ∃ joint g observed, (c.step tick b s).controller.joint? = some joint
      ∧ c.regulator? = some g
      ∧ ((s.get? joint (.axes .velocity)).getD [0]).head? = some observed
      ∧ f = (g.update (observed - u) tick.dt).state.output

/-- A tick of a controller depends on its own inbox only. -/
theorem step_congr {c : Controller} {b b' : Inboxes} {u : Float}
    (h : c.inbox?.map b.read = some u) (h' : c.inbox?.map b'.read = some u)
    (tick : Tick Float) (s : Store) :
  c.step tick b' s = c.step tick b s
  := by
  cases c with
  | disabled => rfl
  | enabled a =>
    have hread : b'.read a.inbox = b.read a.inbox := Option.some.inj (h'.trans h.symm)
    rw [step, step, Active.step, Active.step, hread]

/-- A controller aims at the set-point in its inbox. -/
theorem aimsAt_of_inbox? {c : Controller} {b : Inboxes} {u : Float}
    (h : c.inbox?.map b.read = some u) :
  c.AimsAt b u
  := by
  constructor
  case inbox => apply h
  case alone =>
    intro b' h' tick s
    apply step_congr h h'
  case velocity =>
    intro tick s v hv
    obtain ⟨-, hread, -⟩ := step_of_velocity hv
    exact Option.some.inj (hread.symm.trans h)
  case force =>
    intro tick s f hf
    obtain ⟨-, joint, g, target, observed, hjoint, hg, hread, hobserved, -, hforce, -⟩ :=
      step_of_force hf
    obtain rfl : target = u := Option.some.inj (hread.symm.trans h)
    exact ⟨joint, g, observed, hjoint, hg, hobserved, hforce⟩

end Controller

/-- Controllers that share a network, in the order in which they were set up. -/
structure Fleet where
  network : Network := {}
  controllers : List Controller := []

namespace Fleet

/-! ### Operations -/

/-- Something that is done with a network or one of its controllers.  The controller number `k`
is the one that was set up as such, counted from zero.  What others do with the network or an
inbox when they receive a message is an operation of its own. -/
inductive Operation where
  /-- A controller is set up with the configuration that parameters give. -/
  | configure (model : Entity) (p : Params) (s : Store)
  /-- A controller is set up with a configuration. -/
  | install (model : Entity) (c : Config) (s : Store)
  /-- Someone else subscribes to the topic that a text names, and notes what arrives. -/
  | listen (topic : String)
  /-- A set-point is published on the topic that a text names. -/
  | publish (topic : String) (v : Float)
  /-- A publisher publishes a set-point on its topic. -/
  | send (p : Publisher) (v : Float)
  /-- A set-point is written through a handle of the inbox of a controller. -/
  | set (k : Nat) (v : Float)
  /-- A controller works on a store. -/
  | tick (k : Nat) (t : Tick Float) (s : Store)

/-- The inbox of the controller number `k`, if it has one. -/
def inbox? (x : Fleet) (k : Nat) : Option Inbox := x.controllers[k]?.bind Controller.inbox?

/-- The fleet after an operation. -/
def perform (x : Fleet) : Operation → Fleet
  | .configure model p s =>
    let (c, network, _) := Controller.configure model p s x.network
    ⟨network, x.controllers ++ [c]⟩
  | .install model c s =>
    let setup := ofConfig model c s x.network
    ⟨setup.network, x.controllers ++ setup.result.toOption.toList⟩
  | .listen topic =>
    let (i, inboxes) := x.network.inboxes.add 0
    let (_, network, _) := subscribe { x.network with inboxes } topic i
    { x with network }
  | .publish topic v =>
    match x.network.publish topic v with
    | .ok p => { x with network := p.network }
    | .error _ => x
  | .send p v => { x with network := x.network.deliver p.topic v }
  | .set k v =>
    match x.inbox? k with
    | some i => { x with network := { x.network with inboxes := x.network.inboxes.write i v } }
    | none => x
  | .tick k t s =>
    { x with
      controllers := x.controllers.modify k fun c => (c.step t x.network.inboxes s).controller }

/-- The fleet after a history of operations. -/
def after (x : Fleet) (history : List Operation) : Fleet := history.foldl perform x

namespace Operation

/-- The configuration of the controller that an operation sets up, if it does, with the name of
the model. -/
def config? : Operation → Option (Config × String)
  | .configure model p s =>
    match Config.ofParams p with
    | .ok c => if s.isModel model then some (c, (s.name? model).getD "") else none
    | .error _ => none
  | .install model c s =>
    if s.isModel model ∧ c.joint ≠ "" then some (c, (s.name? model).getD "") else none
  | _ => none

/-- The set-point that an operation gives the controller number `k`, which expects its
set-points on the topic that `text` names. -/
def setPoint? (text : String) (k : Nat) : Operation → Option Float
  | .publish topic v =>
    match Topic.ofString topic with
    | .ok t => if Topic.ofString text = .ok t then some v else none
    | .error _ => none
  | .send p v => if Topic.ofString text = .ok p.topic then some v else none
  | .set k' v => if k' = k then some v else none
  | _ => none

end Operation

/-- The latest of the set-points that operations give the controller number `k`, or the initial
one if they give none. -/
def latest (text : String) (k : Nat) (initial : Float) (ops : List Operation) : Float :=
  (ops.filterMap (·.setPoint? text k)).getLast?.getD initial

/-- The latest set-point is that of the last operation, if that gives one. -/
theorem latest_append (text : String) (k : Nat) (initial : Float) (ops : List Operation)
    (o : Operation) :
  latest text k initial (ops ++ [o]) = (o.setPoint? text k).getD (latest text k initial ops)
  := by
  rw [latest, latest, List.filterMap_append]
  cases h : o.setPoint? text k with
  | none => rw [List.filterMap_cons_none h, List.filterMap_nil, List.append_nil, Option.getD_none]
  | some v =>
    rw [List.filterMap_cons_some h, List.filterMap_nil, List.getLast?_concat, Option.getD_some,
      Option.getD_some]

/-! ### Wiring -/

/-- The controllers of a fleet have inboxes of the network, each its own, and no other inboxes
are subscribed. -/
structure Wired (x : Fleet) : Prop where
  closed : x.network.Closed
  known : ∀ {k i}, x.inbox? k = some i → i.cell < x.network.inboxes.cells.size
  own : ∀ {k k' i}, x.inbox? k = some i → x.inbox? k' = some i → k = k'

/-- A fleet without controllers is wired. -/
theorem wired_empty :
  ({} : Fleet).Wired
  := by
  constructor
  case closed =>
    intro t i hi
    cases hi
  case known =>
    intro k i hi
    cases hi
  case own =>
    intro k k' i hi
    cases hi

/-- The fleet `y` is the fleet `x` with at most one controller more, which has a new inbox, if
it has one. -/
structure Grows (x y : Fleet) (new : Option Controller) : Prop where
  closed : y.network.Closed
  network : x.network.Grows y.network
  controllers : y.controllers = x.controllers ++ new.toList
  fresh : ∀ {i}, new.bind Controller.inbox? = some i →
    x.network.inboxes.cells.size ≤ i.cell ∧ i.cell < y.network.inboxes.cells.size

/-- The inboxes of the fleet `y` are those of the fleet `x`, with the same subscriptions. -/
structure SameWiring (x y : Fleet) : Prop where
  bus : y.network.bus = x.network.bus
  size : y.network.inboxes.cells.size = x.network.inboxes.cells.size
  inbox? : ∀ k, y.inbox? k = x.inbox? k

/-- The inboxes of older controllers are kept, and the new controller has the next number. -/
theorem Grows.inbox?_cases {x y : Fleet} {new : Option Controller} (h : x.Grows y new) {k : Nat}
    {i : Inbox} :
  y.inbox? k = some i ↔
    x.inbox? k = some i
      ∨ k = x.controllers.length ∧ new.bind Controller.inbox? = some i
  := by
  rw [inbox?, inbox?, h.controllers]
  rcases Nat.lt_or_ge k x.controllers.length with hk | hk
  · rw [List.getElem?_append_left hk]
    simp [Nat.ne_of_lt hk]
  · rw [List.getElem?_append_right hk, List.getElem?_eq_none hk]
    cases new with
    | none => simp
    | some c =>
      by_cases heq : k = x.controllers.length
      · simp [heq]
      · have hpos : 0 < k - x.controllers.length := by omega
        simp [heq, List.getElem?_eq_none, hpos, Nat.succ_le_iff]

/-- A wired fleet that grows is wired. -/
theorem Grows.wired {x y : Fleet} {new : Option Controller} (h : x.Grows y new)
    (hx : x.Wired) :
  y.Wired
  := by
  constructor
  case closed => apply h.closed
  case known =>
    intro k i hi
    rcases h.inbox?_cases.1 hi with hi | ⟨-, hi⟩
    · apply Nat.lt_of_lt_of_le (hx.known hi) h.network.size
    · apply (h.fresh hi).2
  case own =>
    intro k k' i hi hi'
    rcases h.inbox?_cases.1 hi with hold | ⟨hk, hnew⟩
    · rcases h.inbox?_cases.1 hi' with hold' | ⟨-, hnew'⟩
      · apply hx.own hold hold'
      · exact absurd (hx.known hold) (Nat.not_lt.2 (h.fresh hnew').1)
    · rcases h.inbox?_cases.1 hi' with hold' | ⟨hk', -⟩
      · exact absurd (hx.known hold') (Nat.not_lt.2 (h.fresh hnew).1)
      · rw [hk, hk']

/-- A wired fleet stays wired as long as its wiring is kept. -/
theorem SameWiring.wired {x y : Fleet} (h : x.SameWiring y) (hx : x.Wired) :
  y.Wired
  := by
  constructor
  case closed =>
    intro t i hi
    rw [h.bus] at hi
    rw [h.size]
    apply hx.closed t i hi
  case known =>
    intro k i hi
    rw [h.inbox?] at hi
    rw [h.size]
    apply hx.known hi
  case own =>
    intro k k' i hi hi'
    rw [h.inbox?] at hi hi'
    apply hx.own hi hi'

/-! ### One operation -/

/-- Setting a controller up with a configuration makes a fleet grow, also if it fails. -/
theorem grows_of_ofConfig {x y : Fleet} (hx : x.Wired) {model : Entity} {c : Config} {s : Store}
    {new : Option Controller} (hnetwork : y.network = (ofConfig model c s x.network).network)
    (hcontrollers : y.controllers = x.controllers ++ new.toList)
    (hnew : new.bind Controller.inbox?
      = (ofConfig model c s x.network).result.toOption.bind Controller.inbox?) :
  x.Grows y new
  := by
  by_cases hmodel : s.isModel model = true ∧ c.joint ≠ ""
  · obtain ⟨hclosed, hgrows, a, hresult, hinbox, hinstalled⟩ :=
      ofConfig_of_model hmodel.1 hmodel.2 hx.closed
    rw [← hnetwork] at hclosed hgrows hinstalled
    use hclosed, hgrows, hcontrollers
    intro i hi
    rw [hnew, hresult] at hi
    obtain rfl : a.inbox = i := Option.some.inj hi
    refine ⟨?_, hinstalled.listens.known⟩
    rw [hinbox]
    apply Nat.le_refl
  · obtain ⟨⟨e, hresult⟩, hsame⟩ := ofConfig_of_refused hmodel x.network
    rw [hsame] at hnetwork
    use hnetwork ▸ hx.closed, hnetwork ▸ Network.Grows.refl _, hcontrollers
    intro i hi
    rw [hnew, hresult] at hi
    cases hi

/-- A fleet grows when a controller is set up from parameters. -/
theorem grows_configure {x : Fleet} (hx : x.Wired) (model : Entity) (p : Params) (s : Store) :
  x.Grows (x.perform (.configure model p s))
    (some (Controller.configure model p s x.network).1)
  := by
  cases hp : Config.ofParams p with
  | ok c =>
    obtain ⟨hcontroller, hnetwork⟩ := configure_eq_of_ok hp model s x.network
    apply grows_of_ofConfig hx hnetwork rfl
    rw [Option.bind_some, hcontroller]
    cases (ofConfig model c s x.network).result <;> rfl
  | error e =>
    obtain ⟨hcontroller, hnetwork⟩ := configure_of_error hp model s x.network
    have hsame : (x.perform (.configure model p s)).network = x.network := hnetwork
    use hsame ▸ hx.closed, hsame ▸ Network.Grows.refl _, rfl
    intro i hi
    rw [Option.bind_some, hcontroller] at hi
    cases hi

/-- A fleet grows when someone else subscribes. -/
theorem grows_listen {x : Fleet} (hx : x.Wired) (topic : String) :
  x.Grows (x.perform (.listen topic)) none
  := by
  obtain ⟨hclosed, hgrows, -⟩ := subscribe_of_new hx.closed 0 topic
  use hclosed, hgrows, (List.append_nil _).symm
  intro i hi
  cases hi

/-- An operation makes a fleet grow and gives no set-point, or it keeps the wiring and gives
every controller the set-point that is meant for it. -/
theorem perform_cases {x : Fleet} (hx : x.Wired) (o : Operation) :
  (∃ new, x.Grows (x.perform o) new ∧ ∀ text k, o.setPoint? text k = none)
    ∨ x.SameWiring (x.perform o)
      ∧ ∀ {k i text}, x.inbox? k = some i → x.network.Listens i text →
        (x.perform o).network.inboxes.read i
          = (o.setPoint? text k).getD (x.network.inboxes.read i)
  := by
  cases o with
  | configure model p s => exact .inl ⟨_, grows_configure hx model p s, fun _ _ => rfl⟩
  | install model c s =>
    exact .inl ⟨_, grows_of_ofConfig hx rfl rfl rfl, fun _ _ => rfl⟩
  | listen topic => exact .inl ⟨none, grows_listen hx topic, fun _ _ => rfl⟩
  | publish topic v =>
    right
    simp only [perform, Operation.setPoint?]
    cases ht : Topic.ofString topic with
    | ok t =>
      obtain ⟨p, hp, hnetwork⟩ := Network.publish_of_ok ht x.network v
      simp only [hp, hnetwork]
      use ⟨rfl, Network.size_deliver _ _ _, fun _ => rfl⟩
      intro k i text _ hlistens
      simp only [Network.read_deliver hlistens.known, hlistens.subscribed]
      split <;> rfl
    | error e =>
      have hp : x.network.publish topic v = .error e := by
        rw [Network.publish, ht]
        rfl
      simp only [hp]
      exact ⟨⟨rfl, rfl, fun _ => rfl⟩, fun _ _ => rfl⟩
  | send p v =>
    right
    use ⟨rfl, Network.size_deliver _ _ _, fun _ => rfl⟩
    intro k i text _ hlistens
    simp only [perform, Operation.setPoint?, Network.read_deliver hlistens.known,
      hlistens.subscribed]
    split <;> rfl
  | set k' v =>
    right
    simp only [perform, Operation.setPoint?]
    cases hj : x.inbox? k' with
    | none =>
      use ⟨rfl, rfl, fun _ => rfl⟩
      intro k i text hi _
      have hne : k' ≠ k := by
        rintro rfl
        rw [hj] at hi
        cases hi
      rw [if_neg hne, Option.getD_none]
    | some j =>
      use ⟨rfl, Inboxes.size_write _ _ _, fun _ => rfl⟩
      intro k i text hi hlistens
      have hiff : j = i ↔ k' = k := by
        constructor
        · rintro rfl
          apply hx.own hj hi
        · rintro rfl
          exact Option.some.inj (hj.symm.trans hi)
      simp only [Inboxes.read_write hlistens.known, hiff]
      split <;> rfl
  | tick k' t s =>
    right
    refine ⟨⟨rfl, rfl, ?_⟩, fun _ _ => rfl⟩
    intro k
    rw [inbox?, inbox?, perform, List.getElem?_modify]
    cases x.controllers[k]? with
    | none => rfl
    | some c =>
      rw [Option.map_eq_map, Option.map_some, Option.bind_some, Option.bind_some]
      split
      · apply inbox?_step
      · rfl

theorem Wired.perform {x : Fleet} (hx : x.Wired) (o : Operation) :
  (x.perform o).Wired
  := by
  rcases perform_cases hx o with ⟨new, hgrows, -⟩ | ⟨hsame, -⟩
  · apply hgrows.wired hx
  · apply hsame.wired hx

/-- The controller number `k` has an inbox, which listens to a text and holds a set-point. -/
structure Holds (x : Fleet) (k : Nat) (text : String) (u : Float) : Prop where
  inbox : ∃ i, x.inbox? k = some i ∧ x.network.Listens i text ∧ x.network.inboxes.read i = u

/-- After an operation an inbox holds the set-point that the operation gives, if it does. -/
theorem Holds.perform {x : Fleet} (hx : x.Wired) {k : Nat} {text : String} {u : Float}
    (h : x.Holds k text u) (o : Operation) :
  (x.perform o).Holds k text ((o.setPoint? text k).getD u)
  := by
  obtain ⟨i, hi, hlistens, rfl⟩ := h.inbox
  rcases perform_cases hx o with ⟨new, hgrows, hnone⟩ | ⟨hsame, hread⟩
  · refine ⟨i, hgrows.inbox?_cases.2 (.inl hi), hlistens.grows hgrows.network, ?_⟩
    rw [hnone, Option.getD_none]
    apply hgrows.network.read i hlistens.known
  · refine ⟨i, (hsame.inbox? k).trans hi, ⟨?_, ?_⟩, hread hi hlistens⟩
    · rw [hsame.size]
      apply hlistens.known
    · rw [hsame.bus]
      apply hlistens.subscribed

/-- A controller that is set up holds its initial set-point. -/
theorem holds_of_config? {x : Fleet} (hx : x.Wired) {o : Operation} {c : Config} {name : String}
    (ho : o.config? = some (c, name)) :
  (x.perform o).Holds x.controllers.length (c.topicFor name) c.initialVelocity
  := by
  have hinstalled : ∀ {model : Entity} {s : Store} {y : Fleet}, s.isModel model = true →
      c.joint ≠ "" → y.network = (ofConfig model c s x.network).network →
      y.controllers = x.controllers ++ (ofConfig model c s x.network).result.toOption.toList →
      y.Holds x.controllers.length (c.topicFor ((s.name? model).getD "")) c.initialVelocity := by
    intro model s y hmodel hjoint hnetwork hcontrollers
    obtain ⟨-, -, a, hresult, -, ha⟩ := ofConfig_of_model hmodel hjoint hx.closed
    rw [← hnetwork] at ha
    refine ⟨a.inbox, ?_, ha.listens, ha.initial⟩
    rw [inbox?, hcontrollers, hresult, List.getElem?_append_right (Nat.le_refl _), Nat.sub_self]
    rfl
  cases o with
  | configure model p s =>
    rw [Operation.config?] at ho
    cases hp : Config.ofParams p with
    | error e =>
      rw [hp] at ho
      cases ho
    | ok c' =>
      rw [hp] at ho
      obtain ⟨hmodel, heq⟩ := Option.ite_none_right_eq_some.1 ho
      cases heq
      have hjoint := Config.joint_ne_of_ofParams hp
      obtain ⟨hcontroller, hnetwork⟩ := configure_eq_of_ok hp model s x.network
      apply hinstalled hmodel hjoint hnetwork
      obtain ⟨-, -, a, hresult, -⟩ := ofConfig_of_model hmodel hjoint hx.closed
      rw [hresult] at hcontroller ⊢
      apply congrArg (x.controllers ++ [·]) hcontroller
  | install model c' s =>
    obtain ⟨⟨hmodel, hjoint⟩, heq⟩ := Option.ite_none_right_eq_some.1 ho
    cases heq
    apply hinstalled hmodel hjoint rfl rfl
  | listen => cases ho
  | publish => cases ho
  | send => cases ho
  | set => cases ho
  | tick => cases ho

/-! ### Histories -/

/-- A wired fleet stays wired through every history. -/
theorem Wired.after {x : Fleet} (hx : x.Wired) (history : List Operation) :
  (x.after history).Wired
  := by
  induction history generalizing x with
  | nil => apply hx
  | cons o later ih => apply ih (hx.perform o)

/-- After a history an inbox holds the latest set-point. -/
theorem Holds.after {x : Fleet} (hx : x.Wired) {k : Nat} {text : String} {u : Float}
    (h : x.Holds k text u) (history : List Operation) :
  (x.after history).Holds k text (latest text k u history)
  := by
  induction history using List.reverseRecOn with
  | nil => apply h
  | append_singleton earlier o ih =>
    rw [Fleet.after, List.foldl_append, latest_append]
    apply ih.perform (hx.after earlier) o

/-- A controller that was set up on a network always aims at the latest of the set-points that
were published on its topic afterwards or written through a handle of its inbox, and at its
initial set-point before the first of these; if its topic is invalid, then none is published on
it. -/
theorem aimsAt_latest (before later : List Operation) {o : Operation} {c : Config}
    {name : String} (ho : o.config? = some (c, name)) :
  let k := (after {} before).controllers.length
  let x := after {} (before ++ o :: later)
  ∃ controller, x.controllers[k]? = some controller
    ∧ controller.AimsAt x.network.inboxes
      (latest (c.topicFor name) k c.initialVelocity later)
  := by
  intro k x
  have hbefore : (after {} before).Wired := wired_empty.after before
  have hholds := (holds_of_config? hbefore ho).after (hbefore.perform o) later
  have hx : ((after {} before).perform o).after later = x := by
    simp only [x, after, List.foldl_append, List.foldl_cons]
  rw [hx] at hholds
  obtain ⟨i, hi, -, hread⟩ := hholds.inbox
  obtain ⟨controller, hcontroller, hinbox⟩ := Option.bind_eq_some_iff.1 hi
  refine ⟨controller, hcontroller, aimsAt_of_inbox? ?_⟩
  rw [hinbox, Option.map_some, hread]

/-- A store with the model `arm`. -/
def armStore : Store := Store.empty.edit (.spawnModel "arm")

/-- A controller of `wrist` is set up on the topic of `go`. -/
def wristSetup : Operation :=
  .install ⟨0, Entity.capacity_pos⟩ { joint := "wrist", topic := some "go" } armStore

/-- A controller of `elbow` is set up on the same topic, under another name. -/
def elbowSetup : Operation :=
  .configure ⟨0, Entity.capacity_pos⟩ (.ofList [("joint_name", .text "elbow"), ("topic", .text "/go"),
    ("initial_velocity", .float 1)]) armStore

/-- Both controllers are sent set-points, on their topic, on another one and by hand. -/
def traffic : List Operation :=
  [.publish "go" 2, .set 1 3, .listen "go", .send ⟨⟨"/go"⟩⟩ 5, .tick 1 (.first 1) armStore,
    .set 0 7, .publish "stop" 8, .publish "go go" 9]

/-- The controller of `elbow` aims at what the publisher sent last, not at what was written for
the other controller or published elsewhere. -/
theorem aimsAt_latest_traffic :
  elbowSetup.config?
      = some ({ joint := "elbow", topic := some "/go", initialVelocity := 1 }, "arm")
    ∧ ∃ controller, (after {} ([wristSetup] ++ elbowSetup :: traffic)).controllers[1]?
        = some controller
      ∧ controller.AimsAt (after {} ([wristSetup] ++ elbowSetup :: traffic)).network.inboxes 5
  := by
  have hsetup : elbowSetup.config?
      = some ({ joint := "elbow", topic := some "/go", initialVelocity := 1 }, "arm") := by
    decide +kernel
  have hnumber : (after {} [wristSetup]).controllers.length = 1 := by decide +kernel
  have hlatest : latest "/go" 1 1 traffic = 5 := by decide +kernel
  obtain ⟨controller, hcontroller, haims⟩ := aimsAt_latest [wristSetup] traffic hsetup
  rw [hnumber] at hcontroller haims
  refine ⟨hsetup, controller, hcontroller, ?_⟩
  rw [← hlatest]
  apply haims

end Fleet

end Servo
