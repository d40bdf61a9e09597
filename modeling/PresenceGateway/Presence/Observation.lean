import PresenceGateway.Json.Decode
import PresenceGateway.Json.Printer
/-!
Observations of devices, as a scanning service reports them.

A coordinate keeps the form in which it was reported, number or text; the text `NaN` stands for a
place that is not known. Everything about a device that may be missing is kept as the JSON value it
was reported with, and null counts as missing.
-/
namespace PresenceGateway

open Json (Value DecodeError)

inductive ApiVersion where
  | v2_0
  | v2_1
deriving DecidableEq

namespace ApiVersion

def text : ApiVersion → String
  | v2_0 => "2.0"
  | v2_1 => "2.1"

def label : ApiVersion → String
  | v2_0 => "V2_0"
  | v2_1 => "V2_1"

def parse? (text : String) : Option ApiVersion :=
  if text = "2.0" then some v2_0 else if text = "2.1" then some v2_1 else none

def decode : Value → Except DecodeError ApiVersion :=
  Json.Decode.variant ["2.0", "2.1"] parse?

end ApiVersion

inductive ObservationType where
  | devicesSeen
  | bluetoothDevicesSeen
deriving DecidableEq

namespace ObservationType

def text : ObservationType → String
  | devicesSeen => "DevicesSeen"
  | bluetoothDevicesSeen => "BluetoothDevicesSeen"

def metricLabel : ObservationType → String
  | devicesSeen => "wifi"
  | bluetoothDevicesSeen => "bluetooth"

def parse? (text : String) : Option ObservationType :=
  if text = "DevicesSeen" then some devicesSeen
  else if text = "BluetoothDevicesSeen" then some bluetoothDevicesSeen
  else none

def decode : Value → Except DecodeError ObservationType :=
  Json.Decode.variant ["DevicesSeen", "BluetoothDevicesSeen"] parse?

end ObservationType

inductive Coordinate where
  | number (value : Json.Number)
  | text (value : String)
deriving DecidableEq

namespace Coordinate

def unknownText : String := "NaN"

/-- Whether the place is not known. Only the exact text says so. -/
def isUnknown : Coordinate → Bool
  | .number _ => false
  | .text value => value == unknownText

def display : Coordinate → String
  | .number value => value.text
  | .text value => value

def toJson : Coordinate → Value
  | .number value => .number value
  | .text value => .string value

def decode : Value → Except DecodeError Coordinate
  | .number value => .ok (.number value)
  | .string value => .ok (.text value)
  | _ => .error (.noVariant "Coordinate")

end Coordinate

structure Location where
  lat : Coordinate
  lng : Coordinate
  unc : Option Value

namespace Location

private def tooShort : String := Json.Decode.sizedRecord "struct ObservationLocation" 3

def ofMembers (members : Json.Members) : Except DecodeError Location := do
  let lat ← Json.Decode.optional Coordinate.decode (members.get? "lat")
  let lng ← Json.Decode.optional Coordinate.decode (members.get? "lng")
  let lat ← Json.Decode.required "lat" lat
  let lng ← Json.Decode.required "lng" lng
  return { lat, lng, unc := Json.Decode.present (members.get? "unc") }

def ofItems (items : List Value) : Except DecodeError Location := do
  let lat ← Json.Decode.item tooShort Coordinate.decode items 0
  let lng ← Json.Decode.item tooShort Coordinate.decode items 1
  Json.Decode.noMore 3 items
  return { lat, lng, unc := Json.Decode.optionalItem items 2 }

def decode : Value → Except DecodeError Location
  | .object members => ofMembers members
  | .array items => ofItems items
  | value => .error (.wrongType (.ofValue value) "struct ObservationLocation")

end Location

structure Observation where
  clientMac : String
  location : Location
  name : Option Value
  os : Option Value
  manufacturer : Option Value
  ipv4 : Option Value
  ipv6 : Option Value
  seenTime : Option Value
  ssid : Option Value

namespace Observation

private def tooShort : String := Json.Decode.sizedRecord "struct ObservationRecord" 9

def ofMembers (members : Json.Members) : Except DecodeError Observation := do
  let clientMac ← Json.Decode.optional Json.Decode.string (members.get? "clientMac")
  let location ← Json.Decode.optional Location.decode (members.get? "location")
  let clientMac ← Json.Decode.required "clientMac" clientMac
  let location ← Json.Decode.required "location" location
  let field := fun key => Json.Decode.present (members.get? key)
  return {
    clientMac, location
    name := field "name"
    os := field "os"
    manufacturer := field "manufacturer"
    ipv4 := field "ipv4"
    ipv6 := field "ipv6"
    seenTime := field "seenTime"
    ssid := field "ssid" }

def ofItems (items : List Value) : Except DecodeError Observation := do
  let clientMac ← Json.Decode.item tooShort Json.Decode.string items 0
  let location ← Json.Decode.item tooShort Location.decode items 1
  Json.Decode.noMore 9 items
  let field := Json.Decode.optionalItem items
  return {
    clientMac, location
    name := field 2
    os := field 3
    manufacturer := field 4
    ipv4 := field 5
    ipv6 := field 6
    seenTime := field 7
    ssid := field 8 }

def decode : Value → Except DecodeError Observation
  | .object members => ofMembers members
  | .array items => ofItems items
  | value => .error (.wrongType (.ofValue value) "struct ObservationRecord")

/-- What was reported about the device besides its place and its name, in a fixed order. -/
def metadata (observation : Observation) : List (String × Option Value) :=
  [("os", observation.os), ("manufacturer", observation.manufacturer),
   ("ipv4", observation.ipv4), ("ipv6", observation.ipv6),
   ("seenTime", observation.seenTime), ("ssid", observation.ssid)]

end Observation

end PresenceGateway
