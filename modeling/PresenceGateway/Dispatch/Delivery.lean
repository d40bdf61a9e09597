import PresenceGateway.Dispatch.Queue
import PresenceGateway.Presence.Sink
import PresenceGateway.Trail
/-!
Delivering queued updates to a sink, and what each submission and each outcome leaves behind.
-/
namespace PresenceGateway.Dispatch

open Json (Value)

/-! ### Submissions -/

def droppedTrail (job : Job) : Trail :=
  .counted (.dispatch "dropped") 1 ++ .logged {
    level := .warn, target := .dispatch, message := "presence queue full, update dropped"
    fields := [
      ("stage", .text "dispatch"), ("trace_id", .shown job.traceId),
      ("dev_id", .shown job.update.devId)] }

/-- A way to submit a job to a dispatcher in some state, which others may use as well. -/
abbrev Submission (State : Type) := Job → State → Except Refusal Unit × State × Trail

def submit (job : Job) (queue : Queue) : Except Refusal Unit × Queue × Trail :=
  match queue.submit job with
  | .ok next => (.ok (), next, .empty)
  | .error .full => (.error .full, queue, droppedTrail job)
  | .error .closed => (.error .closed, queue, .empty)

/-! ### Outcomes -/

def label : Except SinkError Unit → String
  | .ok _ => "ok"
  | .error (.rejected ..) => "rejected"
  | .error (.unavailable _) => "unavailable"

def outcomeJson (result : Except SinkError Unit) : Value :=
  match result with
  | .ok _ => .ofPairs [("result", .string (label result))]
  | .error cause =>
    .ofPairs [("result", .string (label result)), ("error", .string cause.message)]

def outcomeEvent (job : Job) (result : Except SinkError Unit) : Tap.Event :=
  { stage := .dispatch
    traceId := some job.traceId
    devId := some job.update.devId
    details := { Tap.Details.empty with message := some (label result) }
    input := .hidden job.update.redacted
    output := .hidden (outcomeJson result) }

def outcomeLog (job : Job) : Except SinkError Unit → List Log.Event
  | .ok _ => []
  | .error cause => [{
      level := .warn, target := .dispatch, message := "presence sink failed"
      fields := [
        ("stage", .text "dispatch"), ("trace_id", .shown job.traceId),
        ("dev_id", .shown job.update.devId), ("error", .shown cause.message)] }]

def outcomeTrail (job : Job) (answer : SinkAnswer) : Trail :=
  { log := answer.log ++ outcomeLog job answer.result
    tap := [outcomeEvent job answer.result]
    metrics := [(.dispatch (label answer.result), 1)] }

def drainedLog : Log.Event :=
  { level := .debug, target := .dispatch, message := "presence dispatcher drained"
    fields := [("stage", .text "dispatch")] }

/-! ### Running until idle -/

variable {World : Type}

def firstAnswer (sink : Sink World) (world : World) : Nat → List Job → Option (Nat × SinkAnswer × World)
  | _, [] => none
  | place, job :: rest =>
    match sink.see job.update world with
    | some (answer, world) => some (place, answer, world)
    | none => firstAnswer sink world (place + 1) rest

def drain (queue : Queue) : Queue × Trail :=
  match queue.drain? with
  | some next => (next, .logged drainedLog)
  | none => (queue, .empty)

def runFor (sink : Sink World) : Nat → Queue → World → Queue × World × Trail
  | 0, queue, world =>
    let (queue, trail) := drain queue.work
    (queue, world, trail)
  | calls + 1, queue, world =>
    let queue := queue.work
    match firstAnswer sink world 0 queue.running with
    | none =>
      let (queue, trail) := drain queue
      (queue, world, trail)
    | some (place, answer, world) =>
      match queue.finish? place with
      | none => (queue, world, .empty)
      | some (job, queue) =>
        let (queue, world, trail) := runFor sink calls queue world
        (queue, world, outcomeTrail job answer ++ trail)

/-- Runs until nothing can be done without a new submission or a change of the world. -/
def run (sink : Sink World) (queue : Queue) (world : World) : Queue × World × Trail :=
  runFor sink queue.pending queue world

end PresenceGateway.Dispatch
