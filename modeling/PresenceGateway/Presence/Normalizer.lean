import PresenceGateway.Presence.Update
import PresenceGateway.Presence.Accuracy
import PresenceGateway.Payload.Request
/-!
From observations to presence updates.

Each observation gives one update, which depends on the observation and on the access point of its
batch alone. A policy decides which attributes are worth keeping.
-/
namespace PresenceGateway

open Json (Value Members)

/-- Which attributes are kept: all that count as present, or all but null. -/
inductive AttributePolicy where
  | omitEmpty
  | preserveEmpty
deriving DecidableEq

namespace AttributePolicy

def default : AttributePolicy := omitEmpty

def text : AttributePolicy → String
  | omitEmpty => "omit"
  | preserveEmpty => "preserve"

def parse? (text : String) : Option AttributePolicy :=
  if text = "omit" then some omitEmpty
  else if text = "preserve" then some preserveEmpty
  else none

def keeps : AttributePolicy → Value → Bool
  | omitEmpty, value => value.isTruthy
  | preserveEmpty, .null => false
  | preserveEmpty, _ => true

end AttributePolicy

namespace Observation

def position (observation : Observation) : Option ((Coordinate × Coordinate) × Nat) :=
  let place := observation.location
  if place.lat.isUnknown || place.lng.isUnknown then none
  else some ((place.lat, place.lng), Accuracy.parse place.unc)

def hostName (observation : Observation) : String :=
  match observation.name with
  | some (.string name) => name
  | _ => observation.clientMac

def reported (observation : Observation) (apMac : Option Value) : List (String × Option Value) :=
  observation.metadata ++ [("ap_mac", apMac)]

def attributes (observation : Observation) (policy : AttributePolicy) (apMac : Option Value) :
    Members :=
  Members.ofList ((observation.reported apMac).filterMap fun entry =>
    (entry.2.filter policy.keeps).map fun value => (entry.1, value))

def toUpdate (observation : Observation) (policy : AttributePolicy) (apMac : Option Value) :
    Update :=
  { mac := observation.clientMac
    devId := observation.clientMac
    hostName := observation.hostName
    sourceType := .router
    gps := observation.position.map (·.1)
    gpsAccuracy := observation.position.map (·.2)
    attributes := observation.attributes policy apMac }

end Observation

namespace Request

def updates (request : Request) (policy : AttributePolicy) : List Update :=
  request.observations.map fun observation => observation.toUpdate policy request.apMac

end Request

end PresenceGateway
