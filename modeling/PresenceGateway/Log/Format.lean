import PresenceGateway.Json.Printer
import PresenceGateway.Log.Event
/-!
How log events are written: as lines for people to read, or as JSON values.
-/
namespace PresenceGateway.Log

open Json (Value)

def Field.toJson : Field → Value
  | text value => .string value
  | shown value => .string value
  | number value =>
    if fits : -0x8000000000000000 ≤ value ∧ value < 0x10000000000000000 then .number (.integer value fits)
    else .string (toString value)
  | flag value => .bool value

def Event.toJson (event : Event) : Value :=
  .ofPairs [
    ("level", .string event.level.text),
    ("fields", .ofPairs (("message", .string event.message) ::
      event.fields.map fun field => (field.1, field.2.toJson)))]

inductive Format where
  | lines
  | json
deriving DecidableEq

def Format.write : Format → Event → String
  | lines, event => event.line
  | json, event => event.toJson.text

end PresenceGateway.Log
