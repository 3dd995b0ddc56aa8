import Adventurer.Death.Resolve
import Adventurer.Notice

/-!
# Events and the bus

What a running simulation publishes.  The bus keeps a bounded backlog for every subscriber: one that
falls behind loses the oldest events and no others.
-/

namespace Adventurer

/-- What one advance of the clock did. -/
structure TickReport where
  now : Instant
  /-- Number of scheduled actions that were due. -/
  scheduledRan : Nat
  overlayChanged : Bool
  deriving DecidableEq, Repr

/-- Something that happened to a character. -/
inductive Event where
  | notice (character : CreatureId) (notice : Notice)
  | ticked (report : TickReport)
  | died (character : CreatureId) (outcome : DeathOutcome)

/-- The kinds of events that one can subscribe to. -/
inductive Topic where
  /-- What the rules tell the client. -/
  | notices
  /-- Advances of the clock, and deaths. -/
  | lifecycle
  deriving DecidableEq, Repr

def Event.topic : Event → Topic
  | notice _ _ => .notices
  | ticked _ | died _ _ => .lifecycle

/-- A subscriber to a topic and the events it has not received yet, first ones first. -/
structure Subscription where
  topic : Topic
  backlog : List Event := []

/-- The number of a subscription. -/
structure SubscriptionId where
  number : Nat
  deriving DecidableEq, Repr

/-- The subscriptions of a simulation and the length of their backlogs. -/
structure Bus where
  capacity : Nat
  subscriptions : List Subscription := []

namespace Bus

/-- The least power of two that is not below a number, looked for in `steps` doublings. -/
def powerAbove (n : Nat) : (steps : Nat) → (power : Nat) → Nat
  | 0, power => power
  | steps + 1, power => if n ≤ power then power else powerAbove n steps (2 * power)

/-- A bus without subscribers; backlogs hold at least `capacity` events. -/
def withCapacity (capacity : Nat) : Bus := { capacity := powerAbove capacity (capacity.log2 + 1) 1 }

/-- A bus of the usual capacity. -/
def standard : Bus := withCapacity 100

/-- Adds a subscriber, who receives what is published from now on. -/
def subscribe (b : Bus) (topic : Topic) : Bus × SubscriptionId :=
  ({ b with subscriptions := b.subscriptions ++ [{ topic }] }, ⟨b.subscriptions.length⟩)

/-- Puts an event behind a backlog; the oldest events leave one that is full. -/
def enqueue (capacity : Nat) (event : Event) (backlog : List Event) : List Event :=
  let longer := backlog ++ [event]
  longer.drop (longer.length - capacity)

/-- Publishes an event to the subscribers of its topic. -/
def publish (b : Bus) (event : Event) : Bus :=
  { b with
    subscriptions := b.subscriptions.map fun s =>
      if s.topic = event.topic then { s with backlog := enqueue b.capacity event s.backlog }
      else s }

/-- Publishes events in order. -/
def publishAll (b : Bus) (events : List Event) : Bus := events.foldl publish b

/-- Receives everything a subscriber has not received yet. -/
def receive (b : Bus) (id : SubscriptionId) : Bus × List Event :=
  match b.subscriptions[id.number]? with
  | none => (b, [])
  | some s =>
    ({ b with subscriptions := b.subscriptions.set id.number { s with backlog := [] } }, s.backlog)

end Bus

end Adventurer
