/-!
Why a location payload is refused, how that is worded, and how it is answered.
-/
namespace PresenceGateway

inductive Rejection where
  | malformed (detail : String)
  | missingSecret
  | invalidSecret
  | invalidVersion (found : String)
  | invalidType (found : String)
  | invalidObservation (index : Nat) (reason : String)
deriving DecidableEq

namespace Rejection

def unreadable : Rejection := malformed "<json>"

def notAnObject : Rejection := malformed "payload must be a JSON object"

def dataNotAnObject : Rejection := malformed "data must be an object"

def observationsNotAList : Rejection := malformed "data.observations must be an array"

def status : Rejection → Nat
  | malformed _ => 400
  | _ => 422

def code : Rejection → String
  | malformed _ => "malformed_payload"
  | missingSecret => "missing_secret"
  | invalidSecret => "invalid_secret"
  | invalidVersion _ => "invalid_version"
  | invalidType _ => "invalid_type"
  | invalidObservation .. => "invalid_observation"

def title : Rejection → String
  | malformed _ => "Invalid JSON"
  | missingSecret => "No secret"
  | invalidSecret => "Invalid secret"
  | invalidVersion _ => "Invalid version"
  | invalidType _ => "Invalid device type"
  | invalidObservation .. => "Invalid observation"

def message : Rejection → String
  | malformed detail => "malformed payload: " ++ detail
  | missingSecret => "payload carries no secret"
  | invalidSecret => "payload secret does not match"
  | invalidVersion found => "unsupported API version: " ++ found
  | invalidType found => "unsupported observation type: " ++ found
  | invalidObservation index reason =>
    "observation " ++ toString index ++ " is invalid: " ++ reason

/-- Whether the cause is the secret, so that nothing else was looked at. -/
def isSecret : Rejection → Bool
  | missingSecret | invalidSecret => true
  | _ => false

end Rejection

end PresenceGateway
