import PresenceGateway.Log.Event
import PresenceGateway.Metrics
import PresenceGateway.Tap.Event
/-!
What handling something leaves behind for those who watch: log events, stage events and counts.
-/
namespace PresenceGateway

structure Trail where
  log : List Log.Event
  tap : List Tap.Event
  metrics : Metrics

namespace Trail

def empty : Trail := { log := [], tap := [], metrics := [] }

def logged (event : Log.Event) : Trail := { empty with log := [event] }

def shown (event : Tap.Event) : Trail := { empty with tap := [event] }

def counted (metric : Metric) (amount : Nat) : Trail := { empty with metrics := [(metric, amount)] }

def append (first second : Trail) : Trail :=
  { log := first.log ++ second.log
    tap := first.tap ++ second.tap
    metrics := first.metrics ++ second.metrics }

instance : Append Trail where
  append := append

@[simp] theorem log_append (first second : Trail) :
    (first ++ second).log = first.log ++ second.log := rfl

@[simp] theorem tap_append (first second : Trail) :
    (first ++ second).tap = first.tap ++ second.tap := rfl

@[simp] theorem metrics_append (first second : Trail) :
    (first ++ second).metrics = first.metrics ++ second.metrics := rfl

theorem append_assoc (first second third : Trail) :
    first ++ second ++ third = first ++ (second ++ third) := by
  change append (append first second) third = append first (append second third)
  simp only [append, List.append_assoc]

theorem append_empty (trail : Trail) : trail ++ empty = trail := by
  change append trail empty = trail
  simp only [append, empty, List.append_nil]

end Trail

end PresenceGateway
