import PresenceGateway.Dispatch.Delivery
import PresenceGateway.Http.Message
import PresenceGateway.Payload.Validator
import PresenceGateway.Presence.Normalizer
import PresenceGateway.Problem
/-!
The webhook: what a delivery of a payload is answered, and what it leaves behind.

A payload is either refused as a whole, and then nothing is queued, or accepted as a whole, and then
each of its updates is submitted once and in order. The answer does not wait for any sink, and what
is shown never holds the secret, a position or an attribute.
-/
namespace PresenceGateway.Webhook

open Json (Value Members)

structure Settings where
  validator : String
  secret : String
  path : String
  policy : AttributePolicy

structure Delivery where
  traceId : String
  ingressTime : Binary64
  normalizerTime : Binary64
  body : List UInt8

structure Handled (State : Type) where
  response : Http.Response
  queue : State
  trail : Trail

def traceFields (stage : String) (delivery : Delivery) : List (String × Log.Field) :=
  [("stage", .text stage), ("trace_id", .shown delivery.traceId)]

/-! ### The body -/

def receivedLog (delivery : Delivery) (payload : Members) : Log.Event :=
  { level := .debug, target := .webhook, message := "location payload received"
    fields := traceFields "ingress" delivery ++
      [("payload", .shown (Value.text (.object (Payload.redactSecret payload))))] }

def check (settings : Settings) (delivery : Delivery) :
    Except Rejection Validated × List Log.Event :=
  match Payload.read delivery.body with
  | .error cause => (.error cause, [])
  | .ok payload => (Payload.validate settings.secret payload, [receivedLog delivery payload])

/-! ### Refused payloads -/

def refusedLog (delivery : Delivery) (cause : Rejection) : Log.Event :=
  let fields := traceFields "validator" delivery ++ [("reason", .text cause.code)]
  if cause.isSecret then
    { level := .error, target := .webhook, message := cause.title, fields }
  else
    { level := .warn, target := .webhook, message := "payload rejected"
      fields := fields ++ [("error", .shown cause.message)] }

def refusedEvent (delivery : Delivery) (cause : Rejection) : Tap.Event :=
  { stage := .ingress
    traceId := some delivery.traceId
    devId := none
    details := { Tap.Details.empty with
      sizeBytes := some delivery.body.length
      message := some cause.code }
    input := .empty
    output := .plain (.ofPairs [
      ("status", .ofNat (Problem.ofRejection cause).status), ("reason", .string cause.code)]) }

def refusedTrail (delivery : Delivery) (cause : Rejection) : Trail :=
  { log := [refusedLog delivery cause]
    tap := [refusedEvent delivery cause]
    metrics := [(.ingress "rejected", 1), (.rejected cause.code, 1)] }

def problemResponse (problem : Problem) : Http.Response :=
  .ofText problem.status Problem.contentType problem.body

/-! ### Accepted payloads -/

def acceptedEvent (delivery : Delivery) (request : Request) (result : String) : Tap.Event :=
  { stage := .ingress
    traceId := some delivery.traceId
    devId := none
    details := {
      observationType := some request.observationType.text
      sizeBytes := some delivery.body.length
      count := some request.observations.length
      latency := some delivery.ingressTime
      message := none }
    input := .hidden (.ofPairs [
      ("version", .string request.version.text), ("ap_mac", .ofOption request.apMac)])
    output := .plain (.ofPairs [("status", .ofNat 200), ("result", .string result)]) }

def emptyTrail (delivery : Delivery) (request : Request) : Trail :=
  { log := [{
      level := .info, target := .webhook, message := "payload without observations"
      fields := traceFields "ingress" delivery ++
        [("observation_type", .text request.observationType.text)] }]
    tap := [acceptedEvent delivery request "empty"]
    metrics := [(.ingress "empty", 1)] }

def readyTrail (delivery : Delivery) (request : Request) : Trail :=
  { log := []
    tap := [acceptedEvent delivery request "accepted"]
    metrics := [
      (.ingress "accepted", 1),
      (.observations request.observationType.metricLabel, request.observations.length)] }

/-! ### Submitting updates -/

structure Tally where
  queued : Nat
  dropped : Nat
deriving DecidableEq

def goneLog (delivery : Delivery) : Log.Event :=
  { level := .error, target := .webhook, message := "presence dispatcher is gone"
    fields := traceFields "dispatch" delivery }

variable {State : Type}

def submitAll (submit : Dispatch.Submission State) (delivery : Delivery) :
    List Update → State → Tally → State × Tally × Trail
  | [], queue, tally => (queue, tally, .empty)
  | update :: rest, queue, tally =>
    let (result, queue, trail) := submit { update, traceId := delivery.traceId } queue
    let (tally, trail) := match result with
      | .ok _ => ({ tally with queued := tally.queued + 1 }, trail)
      | .error .full => ({ tally with dropped := tally.dropped + 1 }, trail)
      | .error .closed =>
        ({ tally with dropped := tally.dropped + 1 }, trail ++ .logged (goneLog delivery))
    let (queue, tally, later) := submitAll submit delivery rest queue tally
    (queue, tally, trail ++ later)

def submittedLog (delivery : Delivery) (tally : Tally) : Log.Event :=
  { level := .debug, target := .webhook, message := "observations normalized"
    fields := traceFields "normalizer" delivery ++
      [("queued", .number tally.queued), ("dropped", .number tally.dropped)] }

def submittedEvent (delivery : Delivery) (request : Request) (updates : List Update)
    (tally : Tally) : Tap.Event :=
  { stage := .normalizer
    traceId := some delivery.traceId
    devId := none
    details := { Tap.Details.empty with
      observationType := some request.observationType.text
      count := some updates.length
      latency := some delivery.normalizerTime }
    input := .empty
    output := .hidden (.ofPairs [
      ("updates", .array (updates.map Update.redacted)),
      ("queued", .ofNat tally.queued), ("dropped", .ofNat tally.dropped)]) }

def submitUpdates (submit : Dispatch.Submission State) (settings : Settings) (delivery : Delivery)
    (request : Request) (queue : State) : State × Trail :=
  let updates := request.updates settings.policy
  let (queue, tally, trail) := submitAll submit delivery updates queue { queued := 0, dropped := 0 }
  (queue, trail ++ .logged (submittedLog delivery tally)
    ++ .shown (submittedEvent delivery request updates tally))

/-! ### Deliveries and ownership checks -/

def ingest (submit : Dispatch.Submission State) (settings : Settings) (delivery : Delivery)
    (queue : State) : Handled State :=
  let (result, log) := check settings delivery
  let before : Trail := { Trail.empty with log }
  let after := Trail.counted (.acknowledged "post") 1
  match result with
  | .error cause => {
      response := problemResponse (.ofRejection cause)
      queue
      trail := before ++ refusedTrail delivery cause ++ after }
  | .ok (.empty request) => {
      response := .empty 200
      queue
      trail := before ++ emptyTrail delivery request ++ after }
  | .ok (.ready request) =>
    let (queue, trail) := submitUpdates submit settings delivery request queue
    { response := .empty 200
      queue
      trail := before ++ readyTrail delivery request ++ trail ++ after }

def echo (settings : Settings) (queue : State) : Handled State :=
  { response := .ofText 200 "text/plain" settings.validator
    queue
    trail := .counted (.acknowledged "get") 1 }

end PresenceGateway.Webhook
