import PresenceGateway.Tap.Hub
/-!
What a stream shows over time. Between two looks of the listener events are published, and a look shows
those of them that the filter accepts. A listener who is never further behind than the hub remembers
misses none of them.
-/
namespace PresenceGateway.Tap

/-- The events that are published until a listener looks, and the time at which it looks. -/
structure Round where
  published : List Event
  time : Nat

def Frame.event? : Frame → Option Event
  | event shown => some shown
  | comment _ => none

theorem filterMap_event?_map (events : List Event) :
    (events.map Frame.event).filterMap Frame.event? = events := by
  rw [List.filterMap_map]
  exact List.filterMap_some

/-- A listener who is not too far behind receives all that it left behind. -/
theorem Hub.receive_of_near {hub : Hub} {listener : Listener}
    (near : hub.published.length - listener.position ≤ capacity) :
    hub.receive listener = (hub.published.drop listener.position, hub.listen) := by
  have oldest : hub.published.length - capacity ≤ listener.position := by omega
  unfold receive
  dsimp only
  rw [Nat.max_eq_left oldest]

theorem Hub.receive_publish {events : List Event} (few : events.length ≤ capacity) (hub : Hub) :
    (hub.publish events).receive hub.listen = (events, (hub.publish events).listen) := by
  rw [receive_of_near]
  · unfold publish listen
    rw [List.drop_left]
  · unfold publish listen
    rwa [List.length_append, Nat.add_sub_cancel_left]

namespace Stream

theorem read_listener (hub : Hub) (time : Nat) (stream : Stream) :
    (read hub time stream).2.listener = hub.listen := by
  unfold read
  dsimp only
  split
  · split <;> rfl
  · rfl

theorem read_filter (hub : Hub) (time : Nat) (stream : Stream) :
    (read hub time stream).2.filter = stream.filter := by
  unfold read
  dsimp only
  split
  · split <;> rfl
  · rfl

/-- The events of a look are those received that the filter accepts. A sign of life is no event. -/
theorem read_events (hub : Hub) (time : Nat) (stream : Stream) :
    (read hub time stream).1.filterMap Frame.event? =
      (hub.receive stream.listener).1.filter fun event => stream.filter.accepts event.stage := by
  unfold read
  dsimp only
  split
  · rename_i silent
    rw [List.isEmpty_iff.mp silent]
    split <;> rfl
  · exact filterMap_event?_map _

def follow (hub : Hub) (stream : Stream) : List Round → List Frame
  | [] => []
  | round :: rest =>
    let now := hub.publish round.published
    let (frames, later) := read now round.time stream
    frames ++ follow now later rest

/-- Who has left nothing behind at the beginning, and never lags, sees every event that the filter
accepts, in the order in which they were published. -/
theorem follow_events {hub : Hub} {stream : Stream} {rounds : List Round}
    (abreast : stream.listener = hub.listen)
    (few : ∀ round ∈ rounds, round.published.length ≤ Hub.capacity) :
    (follow hub stream rounds).filterMap Frame.event? =
      (rounds.flatMap Round.published).filter fun event => stream.filter.accepts event.stage := by
  induction rounds generalizing hub stream with
  | nil => rfl
  | cons round rest ih =>
      obtain ⟨first, others⟩ := List.forall_mem_cons.mp few
      have later := ih (read_listener (hub.publish round.published) round.time stream) others
      rw [read_filter] at later
      unfold follow
      rw [List.filterMap_append, later, read_events, abreast, Hub.receive_publish first,
        List.flatMap_cons, List.filter_append]

end Stream

end PresenceGateway.Tap
