import PresenceGateway.Log.Event
import PresenceGateway.Presence.Update
/-!
Sinks: where updates end, and why a sink does not take one.
-/
namespace PresenceGateway

/-- Why a sink did not take an update: it refuses this one, or it cannot take any. -/
inductive SinkError where
  | rejected (devId reason : String)
  | unavailable (reason : String)
deriving DecidableEq

namespace SinkError

def message : SinkError → String
  | rejected devId reason => "presence update for " ++ devId ++ " rejected: " ++ reason
  | unavailable reason => "presence sink unavailable: " ++ reason

end SinkError

structure SinkAnswer where
  result : Except SinkError Unit
  log : List Log.Event

/-- A sink over a world that its calls change. A call that cannot end yet has no answer. -/
structure Sink (World : Type) where
  see : Update → World → Option (SinkAnswer × World)

end PresenceGateway
