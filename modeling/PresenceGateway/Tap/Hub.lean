import PresenceGateway.Tap.Event
/-!
Handing stage events to listeners.

The hub keeps events in the order in which they were published. A listener receives what was
published since it last looked, except that of more than 128 such events the oldest are lost. A
stream shows a listener the events that its filter accepts, and a sign of life after 20 silent
seconds.
-/
namespace PresenceGateway.Tap

structure Hub where
  published : List Event

structure Listener where
  position : Nat

namespace Hub

def capacity : Nat := 128

def empty : Hub := { published := [] }

def publish (hub : Hub) (events : List Event) : Hub :=
  { published := hub.published ++ events }

/-- A new listener, who receives nothing of what was published before. -/
def listen (hub : Hub) : Listener :=
  { position := hub.published.length }

def receive (hub : Hub) (listener : Listener) : List Event × Listener :=
  let oldest := hub.published.length - capacity
  (hub.published.drop (max listener.position oldest), hub.listen)

end Hub

/-! ### Streams -/

inductive Frame where
  | event (event : Event)
  | comment (text : String)

/-- A stream of the events that a filter accepts. `silentUntil` is the time of the next sign of
life. -/
structure Stream where
  filter : Filter
  listener : Listener
  silentUntil : Nat

namespace Stream

def patience : Nat := 20

def aliveComment : String := "heartbeat"

def start (hub : Hub) (filter : Filter) (time : Nat) : Stream :=
  { filter, listener := hub.listen, silentUntil := time + patience }

def read (hub : Hub) (time : Nat) (stream : Stream) : List Frame × Stream :=
  let (received, listener) := hub.receive stream.listener
  let shown := received.filter fun event => stream.filter.accepts event.stage
  if shown.isEmpty then
    if stream.silentUntil ≤ time then
      ([.comment aliveComment], { stream with listener, silentUntil := time + patience })
    else ([], { stream with listener })
  else
    (shown.map .event, { stream with listener, silentUntil := time + patience })

end Stream

/-! ### Signs of life of the hub itself -/

/-- A publisher of an event every ten seconds, and the time at which it began. -/
structure Heartbeat where
  since : Nat

namespace Heartbeat

def period : Nat := 10

/-- How many events were published until a time, the one at the beginning included. -/
def count (heart : Heartbeat) (time : Nat) : Nat :=
  if heart.since ≤ time then (time - heart.since) / period + 1 else 0

def between (heart : Heartbeat) (before time : Nat) : List Event :=
  List.replicate (heart.count time - heart.count before) Event.heartbeat

end Heartbeat

end PresenceGateway.Tap
