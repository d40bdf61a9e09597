import PresenceGateway.Presence.Observation
/-!
Accepted location payloads.
-/
namespace PresenceGateway

open Json (Value)

structure Request where
  secret : String
  version : ApiVersion
  observationType : ObservationType
  apMac : Option Value
  observations : List Observation

/-! ### Diagnostic text -/

namespace Debug

def option {α : Type} (text : α → String) : Option α → String
  | none => "None"
  | some value => "Some(" ++ text value ++ ")"

def record (name : String) (fields : List (String × String)) : String :=
  name ++ " \x7b " ++ String.intercalate ", " (fields.map fun field => field.1 ++ ": " ++ field.2)
    ++ " \x7d"

mutual

def value : Value → String
  | .null => "Null"
  | .bool flag => "Bool(" ++ (if flag then "true" else "false") ++ ")"
  | .number number => "Number(" ++ number.text ++ ")"
  | .string text => "String(" ++ Text.quote text ++ ")"
  | .array items => "Array " ++ Text.bracketed (values items)
  | .object fields => "Object \x7b" ++ String.intercalate ", " (members fields) ++ "\x7d"

def values : List Value → List String
  | [] => []
  | item :: rest => value item :: values rest

def members : List (String × Value) → List String
  | [] => []
  | (key, item) :: rest => (Text.quote key ++ ": " ++ value item) :: members rest

end

def coordinate : Coordinate → String
  | .number number => "Number(Number(" ++ number.text ++ "))"
  | .text text => "Text(" ++ Text.quote text ++ ")"

def location (place : Location) : String :=
  record "ObservationLocation" [
    ("lat", coordinate place.lat), ("lng", coordinate place.lng),
    ("unc", option value place.unc)]

def observation (seen : Observation) : String :=
  record "ObservationRecord" [
    ("client_mac", Text.quote seen.clientMac), ("location", location seen.location),
    ("name", option value seen.name), ("os", option value seen.os),
    ("manufacturer", option value seen.manufacturer), ("ipv4", option value seen.ipv4),
    ("ipv6", option value seen.ipv6), ("seen_time", option value seen.seenTime),
    ("ssid", option value seen.ssid)]

end Debug

namespace Request

def hiddenSecret : String := "hidden"

def debugText (request : Request) : String :=
  Debug.record "IngestRequest" [
    ("secret", Text.quote hiddenSecret), ("version", request.version.label),
    ("observation_type", request.observationType.text),
    ("ap_mac", Debug.option Debug.value request.apMac),
    ("observations", Text.bracketed (request.observations.map Debug.observation))]

end Request

end PresenceGateway
