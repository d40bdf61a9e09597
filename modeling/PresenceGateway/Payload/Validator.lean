import PresenceGateway.Payload.Rejection
import PresenceGateway.Payload.Request
import PresenceGateway.Json.Reader
/-!
Checking location payloads.

The checks come in a fixed order, and the first that fails decides: the payload is an object, it
carries a secret, the secret is the configured one, then version, type, data, the list of
observations, and each observation in turn. Nothing but the secret is looked at before the secret is
right.
-/
namespace PresenceGateway

open Json (Value Members)

inductive Validated where
  | empty (request : Request)
  | ready (request : Request)

def Validated.request : Validated → Request
  | empty request => request
  | ready request => request

namespace Payload

def read (body : List UInt8) : Except Rejection Members :=
  match Value.read? body with
  | none => .error .unreadable
  | some (.object members) => .ok members
  | some _ => .error .notAnObject

def checkSecret (configured : String) (provided : Option Value) : Except Rejection String :=
  match provided.filter Value.isTruthy with
  | none => .error .missingSecret
  | some (.string secret) =>
    if secret = configured then .ok secret else .error .invalidSecret
  | some _ => .error .invalidSecret

def describe : Option Value → String
  | none => "<missing>"
  | some value => value.text

def checkName {α : Type} (parse : String → Option α) (refuse : String → Rejection) :
    Option Value → Except Rejection α
  | some (.string name) =>
    match parse name with
    | some meaning => .ok meaning
    | none => .error (refuse name)
  | found => .error (refuse (describe found))

def checkData : Option Value → Except Rejection Members
  | some (.object members) => .ok members
  | _ => .error .dataNotAnObject

def checkList : Option Value → Except Rejection (List Value)
  | none => .ok []
  | some .null => .ok []
  | some (.array items) => .ok items
  | some _ => .error .observationsNotAList

def checkObservations (index : Nat) : List Value → Except Rejection (List Observation)
  | [] => .ok []
  | item :: rest =>
    match Observation.decode item with
    | .error cause => .error (.invalidObservation index cause.message)
    | .ok observation =>
      match checkObservations (index + 1) rest with
      | .error cause => .error cause
      | .ok observations => .ok (observation :: observations)

def validate (configured : String) (payload : Members) : Except Rejection Validated := do
  let secret ← checkSecret configured (payload.get? "secret")
  let version ← checkName ApiVersion.parse? .invalidVersion (payload.get? "version")
  let observationType ← checkName ObservationType.parse? .invalidType (payload.get? "type")
  let data ← checkData (payload.get? "data")
  let items ← checkList (data.get? "observations")
  let observations ← checkObservations 0 items
  let request : Request := {
    secret, version, observationType
    apMac := Json.Decode.present (data.get? "apMac")
    observations }
  return if observations.isEmpty then .empty request else .ready request

def validateValue (configured : String) : Value → Except Rejection Validated
  | .object members => validate configured members
  | _ => .error .notAnObject

def validateBody (configured : String) (body : List UInt8) : Except Rejection Validated := do
  validate configured (← read body)

def redactSecret (payload : Members) : Members :=
  payload.map fun member =>
    if member.1 = "secret" then (member.1, .string Request.hiddenSecret) else member

def redactSecretOf : Value → Value
  | .object members => .object (redactSecret members)
  | value => value

end Payload

end PresenceGateway
