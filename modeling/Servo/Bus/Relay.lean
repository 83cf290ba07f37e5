import Servo.Bus

/-!
# Relays

A subscriber of a relay bus either records a message or forwards it to another topic
before it notes it.  `Bus.relay` is the delivery of one message with everything that it
causes: the subscribers of its topic are served in the order of their subscriptions, and
all that one of them causes is done before the next one is served.
-/

namespace Servo

/-- What a subscriber of a relay bus does with a message. -/
inductive Listener where
  /-- Notes the message. -/
  | recorder (id : String)
  /-- Publishes the message on `target`, then notes how many subscribers that has. -/
  | forwarder (id : String) (target : String)
  deriving DecidableEq, Repr

/-- The note of a listener. -/
inductive Receipt where
  | received (id : String) (value : Float)
  /-- The target has `reached` subscribers; none is given for an invalid target. -/
  | forwarded (id : String) (reached : Option Nat)

namespace Bus

/-- The notes of listeners that are served one after the other, given the notes that
publishing the message on a topic causes. -/
def serve (b : Bus Listener) (value : Float) (publish : Topic → Option (List Receipt)) :
    List Listener → Option (List Receipt)
  | [] => some []
  | .recorder id :: rest =>
    (serve b value publish rest).map (.received id value :: ·)
  | .forwarder id target :: rest =>
    match Topic.ofString target with
    | .error _ => (serve b value publish rest).map (.forwarded id none :: ·)
    | .ok t => do
      let caused ← publish t
      let later ← serve b value publish rest
      return caused ++ .forwarded id (some (b.subscribers t).length) :: later

/-- The notes that a message on a topic causes, in order; none if forwarding is more than
`depth` levels deep. -/
def relay (b : Bus Listener) (value : Float) : (depth : Nat) → Topic → Option (List Receipt)
  | 0, _ => none
  | depth + 1, t => serve b value (relay b value depth) (b.subscribers t)

/-- The notes of a message on a topic.  On a bus without a forwarding cycle no path of
forwarders is longer than the number of subscriptions, so these are all the notes. -/
def deliver? (b : Bus Listener) (t : Topic) (value : Float) : Option (List Receipt) :=
  relay b value (b.subscriptions.length + 1) t

end Bus

end Servo
