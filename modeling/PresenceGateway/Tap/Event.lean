import PresenceGateway.Tap.Stage
import PresenceGateway.Json.Value
/-!
Stage events: what a listener is told about a payload on its way through the gateway.
-/
namespace PresenceGateway.Tap

open Json (Value)

/-- What goes into a stage or comes out of it, and whether parts of it are hidden. -/
structure Content where
  redacted : Bool
  payload : Value

namespace Content

def empty : Content := { redacted := false, payload := .null }

def plain (payload : Value) : Content := { redacted := false, payload }

def hidden (payload : Value) : Content := { redacted := true, payload }

def toJson (content : Content) : Value :=
  .ofPairs [("redacted", .bool content.redacted), ("payload", content.payload)]

end Content

structure Details where
  observationType : Option String
  sizeBytes : Option Nat
  count : Option Nat
  latency : Option Binary64
  message : Option String

namespace Details

def empty : Details :=
  { observationType := none, sizeBytes := none, count := none, latency := none, message := none }

def fields (details : Details) : List (String × Value) :=
  [("observation_type", details.observationType.map .string),
   ("size_bytes", details.sizeBytes.map .ofNat),
   ("count", details.count.map .ofNat),
   ("latency_ms", details.latency.map fun time => .number (.double time)),
   ("message", details.message.map .string)].filterMap fun field =>
      field.2.map fun value => (field.1, value)

end Details

structure Event where
  stage : Stage
  traceId : Option String
  devId : Option String
  details : Details
  input : Content
  output : Content

namespace Event

def fields (event : Event) : List (String × Value) :=
  let details := event.details.fields
  [("stage", some (.string event.stage.text)),
   ("trace_id", event.traceId.map .string),
   ("dev_id", event.devId.map .string),
   ("meta", if details.isEmpty then none else some (.ofPairs details)),
   ("in", some event.input.toJson),
   ("out", some event.output.toJson)].filterMap fun field =>
      field.2.map fun value => (field.1, value)

def toJson (event : Event) : Value :=
  .ofPairs event.fields

def heartbeat : Event :=
  let message := "tap.dev.heartbeat"
  { stage := .ingress
    traceId := none
    devId := none
    details := { Details.empty with message := some message }
    input := .empty
    output := .plain (.ofPairs [("message", .string message)]) }

end Event

end PresenceGateway.Tap
