import Servo.Dictionary
import Servo.Topic

/-!
# The message bus

A `Bus α` holds subscriptions, each a topic with a subscriber of type `α`, in the order in
which they were made.  `Bus.subscribers` are the subscribers that a message on a topic
reaches, in that order, and `Bus.topics` are the topics that have one.
-/

namespace Servo

/-- The subscriptions on a bus, the oldest first. -/
structure Bus (α : Type) where
  subscriptions : List (Topic × α) := []

namespace Bus

variable {α : Type}

/-- The bus with one more subscription. -/
def subscribe (b : Bus α) (t : Topic) (a : α) : Bus α :=
  ⟨b.subscriptions ++ [(t, a)]⟩

/-- The subscribers of a topic, the oldest first. -/
def subscribers (b : Bus α) (t : Topic) : List α :=
  b.subscriptions.filterMap fun s => if s.1 = t then some s.2 else none

/-- The names of the topics that have a subscriber, in increasing order. -/
def topics (b : Bus α) : List String :=
  (Dictionary.ofList (b.subscriptions.map fun s => (s.1.name, ()))).keys

/-- A bus in descriptions of values. -/
def description (b : Bus α) : String :=
  "Node \x7b topics: " ++ toString b.topics.length ++ " \x7d"

end Bus

/-- Someone who publishes on one topic. -/
structure Publisher where
  topic : Topic
  deriving DecidableEq, Repr

namespace Publisher

/-- A publisher on the topic that a text names. -/
def ofString (text : String) : Except Topic.Error Publisher := (Topic.ofString text).map (⟨·⟩)

/-- A publisher on a bus in descriptions of values. -/
def description {α : Type} (p : Publisher) (b : Bus α) : String :=
  "Publisher \x7b node: " ++ b.description ++ ", topic: " ++ Text.quote p.topic.name ++ " \x7d"

end Publisher

end Servo
