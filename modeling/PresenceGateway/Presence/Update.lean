import PresenceGateway.Presence.Observation
/-!
Presence updates: what a device tracker is told about one device.
-/
namespace PresenceGateway

open Json (Value DecodeError)

inductive SourceType where
  | gps
  | router
  | bluetooth
  | bluetoothLe
deriving DecidableEq

namespace SourceType

def text : SourceType → String
  | gps => "gps"
  | router => "router"
  | bluetooth => "bluetooth"
  | bluetoothLe => "bluetooth_le"

def parse? (text : String) : Option SourceType :=
  if text = "gps" then some gps
  else if text = "router" then some router
  else if text = "bluetooth" then some bluetooth
  else if text = "bluetooth_le" then some bluetoothLe
  else none

def decode : Value → Except DecodeError SourceType :=
  Json.Decode.variant ["gps", "router", "bluetooth", "bluetooth_le"] parse?

end SourceType

structure Update where
  mac : String
  devId : String
  hostName : String
  sourceType : SourceType
  gps : Option (Coordinate × Coordinate)
  gpsAccuracy : Option Nat
  attributes : Json.Members

namespace Update

def decodeGps : Value → Except DecodeError (Coordinate × Coordinate)
  | .array items => do
    let lat ← Json.Decode.item "a tuple of size 2" Coordinate.decode items 0
    let lng ← Json.Decode.item "a tuple of size 2" Coordinate.decode items 1
    Json.Decode.noMore 2 items
    return (lat, lng)
  | value => .error (.wrongType (.ofValue value) "a tuple of size 2")

def decodeAttributes : Value → Except DecodeError Json.Members
  | .object members => .ok members
  | value => .error (.wrongType (.ofValue value) "a map")

def ofMembers (members : Json.Members) : Except DecodeError Update := do
  let attributes ← Json.Decode.optional decodeAttributes (members.get? "attributes")
  let devId ← Json.Decode.optional Json.Decode.string (members.get? "dev_id")
  let gps ← Json.Decode.optional (Json.Decode.nullable decodeGps) (members.get? "gps")
  let gpsAccuracy ← Json.Decode.optional (Json.Decode.nullable Json.Decode.word32)
    (members.get? "gps_accuracy")
  let hostName ← Json.Decode.optional Json.Decode.string (members.get? "host_name")
  let mac ← Json.Decode.optional Json.Decode.string (members.get? "mac")
  let sourceType ← Json.Decode.optional SourceType.decode (members.get? "source_type")
  let mac ← Json.Decode.required "mac" mac
  let devId ← Json.Decode.required "dev_id" devId
  let hostName ← Json.Decode.required "host_name" hostName
  let sourceType ← Json.Decode.required "source_type" sourceType
  let attributes ← Json.Decode.required "attributes" attributes
  return {
    mac, devId, hostName, sourceType
    gps := gps.join
    gpsAccuracy := gpsAccuracy.join
    attributes }

def ofItems (items : List Value) : Except DecodeError Update := do
  let tooShort := Json.Decode.sizedRecord "struct PresenceUpdate" 7
  let mac ← Json.Decode.item tooShort Json.Decode.string items 0
  let devId ← Json.Decode.item tooShort Json.Decode.string items 1
  let hostName ← Json.Decode.item tooShort Json.Decode.string items 2
  let sourceType ← Json.Decode.item tooShort SourceType.decode items 3
  let gps ← Json.Decode.item tooShort (Json.Decode.nullable decodeGps) items 4
  let gpsAccuracy ← Json.Decode.item tooShort (Json.Decode.nullable Json.Decode.word32) items 5
  let attributes ← Json.Decode.item tooShort decodeAttributes items 6
  Json.Decode.noMore 7 items
  return { mac, devId, hostName, sourceType, gps, gpsAccuracy, attributes }

def decode : Value → Except DecodeError Update
  | .object members => ofMembers members
  | .array items => ofItems items
  | value => .error (.wrongType (.ofValue value) "struct PresenceUpdate")

def accuracyJson : Option Nat → Value
  | none => .null
  | some n => .ofNat n

def fields (update : Update) : List (String × Value) :=
  [("mac", .string update.mac),
   ("dev_id", .string update.devId),
   ("host_name", .string update.hostName),
   ("source_type", .string update.sourceType.text),
   ("gps", match update.gps with
      | none => .null
      | some (lat, lng) => .array [lat.toJson, lng.toJson]),
   ("gps_accuracy", accuracyJson update.gpsAccuracy),
   ("attributes", .object update.attributes)]

def text (update : Update) : String :=
  Value.text (.object update.fields)

/-- What may be shown of an update: who and how, the keys of the attributes, and whether there is a
position, but neither the position nor any attribute. -/
def redacted (update : Update) : Value :=
  .ofPairs [
    ("dev_id", .string update.devId),
    ("source_type", .string update.sourceType.text),
    ("has_gps", .bool update.gps.isSome),
    ("gps_accuracy", accuracyJson update.gpsAccuracy),
    ("attributes", .array (update.attributes.map fun member => .string member.1))]

end Update

end PresenceGateway
