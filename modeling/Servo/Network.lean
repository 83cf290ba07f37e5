import Servo.Bus
import Servo.Inbox
import Servo.Log

/-!
# The network

A `Network` is a bus whose subscribers are inboxes.  `Network.publish` writes a set-point
into every inbox that is subscribed to a topic.
-/

namespace Servo

/-- A bus of inboxes, with the set-points in them. -/
structure Network where
  bus : Bus Inbox := {}
  inboxes : Inboxes := {}

namespace Network

/-- The network in which an inbox has one more subscription. -/
def subscribe (n : Network) (t : Topic) (i : Inbox) : Network :=
  { n with bus := n.bus.subscribe t i }

/-- The network after a set-point was delivered to the subscribers of a topic. -/
def deliver (n : Network) (t : Topic) (v : Float) : Network :=
  { n with inboxes := (n.bus.subscribers t).foldl (·.write · v) n.inboxes }

/-- What becomes of a publication. -/
structure Publication where
  network : Network
  /-- The number of inboxes that were reached. -/
  reached : Nat
  events : List Log.Event

/-- Publishes a set-point on the topic that a text names. -/
def publish (n : Network) (topic : String) (v : Float) : Except Topic.Error Publication := do
  let t ← Topic.ofString topic
  let reached := (n.bus.subscribers t).length
  let events := if reached = 0 then [] else [.delivered t v reached]
  return ⟨n.deliver t v, reached, events⟩

end Network

end Servo
