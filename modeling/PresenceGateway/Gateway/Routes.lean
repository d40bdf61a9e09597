import PresenceGateway.Gateway.Webhook
import PresenceGateway.Http.RouteTree
import PresenceGateway.Url.Percent
/-!
The endpoints of the gateway, and which of them answers a request.

Three endpoints have fixed paths and the webhook has a configured one. A gateway with a webhook path
that cannot be read, or that ends where a fixed path does, cannot be built.
-/
namespace PresenceGateway

open Http (Response)

inductive Endpoint where
  | health
  | metrics
  | tap
  | webhook
deriving DecidableEq

namespace Endpoint

def fixed : List (String × Endpoint) :=
  [("/healthz", health), ("/metrics", metrics), ("/_debug/tap", tap)]

def methods : Endpoint → List String
  | webhook => ["GET", "HEAD", "POST"]
  | _ => ["GET", "HEAD"]

end Endpoint

structure Gateway where
  settings : Webhook.Settings
  routes : Http.RouteTree Endpoint

structure Arrival where
  request : Http.Request
  traceId : String
  ingressTime : Binary64
  normalizerTime : Binary64

namespace Gateway

/-- The endpoints by their patterns: the fixed ones, and the webhook last. -/
def routes? (webhookPath : String) : Option (Http.RouteTree Endpoint) := do
  let given := Endpoint.fixed ++ [(webhookPath, .webhook)]
  let patterns ← given.mapM fun entry => (Http.Pattern.parse? entry.1).map (·, entry.2)
  Http.RouteTree.ofList? patterns

def build? (settings : Webhook.Settings) : Option Gateway :=
  (routes? settings.path).map fun routes => { settings, routes }

def endpoint? (gateway : Gateway) (path : String) : Option Endpoint :=
  gateway.routes.find? path

/-! ### Single endpoints -/

def bodyLimit : Nat := 2 * 1024 * 1024

def tooLong : Response :=
  .ofText 413 Response.plainText "Failed to buffer the request body: length limit exceeded"

def version : String := "0.1.0"

def revision : String := "unknown"

def buildLines : String :=
  "# TYPE app_build_info gauge\n" ++ Metric.labelled "app_build_info"
    [("version", version), ("git", revision)] ++ " 1\n# TYPE app_uptime_seconds gauge\n"

inductive TapRefusal where
  | repeated
  | unknown (stage : Tap.UnknownStage)

def TapRefusal.message : TapRefusal → String
  | repeated =>
    let tick := String.singleton (Char.ofNat 0x60)
    "Failed to deserialize query string: duplicate field " ++ tick ++ "s" ++ tick
  | unknown stage => stage.message

def tapFilter (query : Option String) : Except TapRefusal Tap.Filter :=
  let given := (Form.decode (query.getD "")).filter fun pair => pair.1 = "s"
  match given with
  | _ :: _ :: _ => .error .repeated
  | [pair] => (Tap.Filter.parse pair.2).mapError .unknown
  | [] => .ok .everything

def tapResponse (query : Option String) : Response :=
  match tapFilter query with
  | .error refusal => .ofText 400 Response.plainText refusal.message
  | .ok filter =>
    { status := 200, contentType := some Response.eventStream, allow := none, body := .events filter }

/-! ### Requests -/

def answer (gateway : Gateway) (arrival : Arrival) (queue : Dispatch.Queue) :
    Endpoint → Webhook.Handled Dispatch.Queue
  | .health => { response := .empty 200, queue, trail := .empty }
  | .metrics => {
      response := .ofText 200 "text/plain; version=0.0.4" buildLines, queue, trail := .empty }
  | .tap => { response := tapResponse arrival.request.query, queue, trail := .empty }
  | .webhook =>
    if arrival.request.method = "POST" then
      if arrival.request.body.length ≤ bodyLimit then
        Webhook.ingest Dispatch.submit gateway.settings
          { traceId := arrival.traceId
            ingressTime := arrival.ingressTime
            normalizerTime := arrival.normalizerTime
            body := arrival.request.body } queue
      else { response := tooLong, queue, trail := .empty }
    else Webhook.echo gateway.settings queue

/-- Handles a request. `HEAD` is answered as `GET` is, but without a body. -/
def handle (gateway : Gateway) (arrival : Arrival) (queue : Dispatch.Queue) :
    Webhook.Handled Dispatch.Queue :=
  match gateway.endpoint? arrival.request.path with
  | none => { response := .empty 404, queue, trail := .empty }
  | some endpoint =>
    if arrival.request.method ∈ endpoint.methods then
      let handled := gateway.answer arrival queue endpoint
      if arrival.request.method = "HEAD" then
        { handled with response := handled.response.withoutBody }
      else handled
    else {
      response := { Response.empty 405 with allow := some (",".intercalate endpoint.methods) }
      queue, trail := .empty }

end Gateway

end PresenceGateway
