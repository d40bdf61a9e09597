import PresenceGateway.Gateway.Routes
import PresenceGateway.Tap.Hub
/-!
A gateway at work: requests come in, the worker delivers updates to a sink, and listeners are told.

Nothing happens between two operations: each one ends when the worker and the sink have nothing left
to do.
-/
namespace PresenceGateway

/-- A gateway at work over the world of its sink. The gateway itself is gone once it is closed. -/
structure Service (World : Type) where
  gateway : Option Gateway
  sink : Sink World
  world : World
  queue : Dispatch.Queue
  hub : Tap.Hub
  hearts : List Tap.Heartbeat
  time : Nat

namespace Service

variable {World : Type}

def start? (settings : Webhook.Settings) (limits : Dispatch.Limits) (sink : Sink World)
    (world : World) : Option (Service World) :=
  match Gateway.build? settings, Dispatch.Queue.start? limits with
  | some gateway, some queue =>
    some { gateway := some gateway, sink, world, queue, hub := .empty, hearts := [], time := 0 }
  | _, _ => none

def settle (service : Service World) : Service World × Trail :=
  let (queue, world, trail) := Dispatch.run service.sink service.queue service.world
  ({ service with queue, world, hub := service.hub.publish trail.tap }, trail)

def request (arrival : Arrival) (service : Service World) :
    Option Http.Response × Service World × Trail :=
  match service.gateway with
  | none => (none, service, .empty)
  | some gateway =>
    let handled := gateway.handle arrival service.queue
    let (service, later) := settle { service with
      queue := handled.queue
      hub := service.hub.publish handled.trail.tap }
    (some handled.response, service, handled.trail ++ later)

def advance (seconds : Nat) (service : Service World) : Service World × Trail :=
  let time := service.time + seconds
  let tap := service.hearts.flatMap fun heart => heart.between service.time time
  ({ service with time, hub := service.hub.publish tap }, { Trail.empty with tap })

def beat (service : Service World) : Service World × Trail :=
  let tap := [Tap.Event.heartbeat]
  ({ service with
    hub := service.hub.publish tap
    hearts := service.hearts ++ [{ since := service.time }] }, { Trail.empty with tap })

def change (f : World → World) (service : Service World) : Service World × Trail :=
  settle { service with world := f service.world }

def stopWorker (service : Service World) : Service World :=
  { service with queue := service.queue.abort }

def hasWorker (service : Service World) : Bool :=
  match service.queue.worker with
  | .working _ => true
  | _ => false

/-- Closes the gateway, and lets the worker drain the queue. The worker learns of the end before the
world changes, so what it need not wait for does not hold it up. -/
def close (f : World → World) (service : Service World) : Service World × Trail :=
  let (queue, first) := Dispatch.drain service.queue.close
  let (service, later) := settle { service with
    gateway := none
    queue
    world := f service.world }
  (service, first ++ later)

end Service

end PresenceGateway
