import PresenceGateway.Config.Settings
import PresenceGateway.Dsm.Client
import PresenceGateway.Gateway.Service
import PresenceGateway.Log.Filter
import PresenceGateway.Log.Format
import PresenceGateway.Nas.Supervisor
import PresenceGateway.Tracker.Database
import PresenceGateway.Tracker.Recorder
/-!
The application: everything that runs together, from the environment to the end.

Starting goes through the configuration, the database, the queue, the NAS, the listening socket and
the endpoints, in this order, and ends at the first of them that fails. A NAS whose address cannot
be read is the exception: it is left alone. A running application serves until it is interrupted.
Then the gateway closes, the queue is drained and the session with the NAS is closed.
-/
namespace PresenceGateway

/-! ### Outside -/

structure SocketError where
  code : Nat
  kind : String
  message : String
deriving DecidableEq

namespace SocketError

def inUse : SocketError := { code := 98, kind := "AddrInUse", message := "Address already in use" }

def notAvailable : SocketError :=
  { code := 99, kind := "AddrNotAvailable", message := "Cannot assign requested address" }

def debugText (error : SocketError) : String :=
  "Os \x7b code: " ++ toString error.code ++ ", kind: " ++ error.kind ++ ", message: "
    ++ Text.quote error.message ++ " \x7d"

end SocketError

/-- What the application finds outside of itself: files, sockets, the network, the time and the number
that the runtime gives to the task of the queue's worker. -/
structure Surroundings where
  files : String → Tracker.FileState
  listen : SocketAddress → Option SocketError
  wire : Dsm.Wire
  now : Instant
  workerTask : Nat

/-- Why the application does not run. A crash leaves no text of its own. -/
inductive StartError where
  | config (cause : ConfigError)
  | database (cause : Tracker.DatabaseError)
  | socket (cause : SocketError)
  | crash

namespace StartError

def report? : StartError → Option String
  | config cause => some ("Error: " ++ cause.debugText ++ "\n")
  | database cause => some ("Error: " ++ cause.debugText ++ "\n")
  | socket cause => some ("Error: " ++ cause.debugText ++ "\n")
  | crash => none

def exitCode : StartError → Nat
  | crash => 101
  | _ => 1

end StartError

/-! ### Logging -/

def RunMode.logFormat : RunMode → Log.Format
  | production => .json
  | _ => .lines

def Environment.logFilter (environment : Environment) : Log.Filter :=
  .ofSetting (environment.value? "RUST_LOG")

namespace Application

def initializedLog (config : Config) : Log.Event :=
  { level := .info, target := .telemetry, message := "tracing initialized"
    fields := [
      ("stage", .text "telemetry"), ("env", .shown config.mode.text),
      ("version", .text Gateway.version), ("git_sha", .text Gateway.revision)] }

def noClientLog (cause : Dsm.Error) : Log.Event :=
  { level := .error, target := .app, message := "failed to create NAS client"
    fields := [("stage", .text "nas"), ("error", .shown cause.message)] }

def startingLog (config : Config) : Log.Event :=
  { level := .info, target := .app, message := "starting HTTP server"
    fields := [
      ("stage", .text "app"), ("addr", .shown config.address.text),
      ("env", .shown config.mode.text), ("webhook_path", .shown config.webhook.path)] }

def plainLog (message : String) : Log.Event :=
  { level := .info, target := .app, message, fields := [("stage", .text "app")] }

def lostWorkerLog (task : Nat) : Log.Event :=
  { level := .error, target := .app, message := "presence dispatcher stopped abnormally"
    fields := [
      ("stage", .text "dispatch"),
      ("error", .shown ("task " ++ toString task ++ " panicked with message " ++ Text.quote
        ("a semaphore may not have more than MAX_PERMITS permits ("
          ++ toString Dispatch.Limits.mostPermits ++ ")")))] }

end Application

/-! ### Starting -/

structure NasWatch where
  client : Dsm.Client
  supervisor : Nas.Supervisor Unit Dsm.State

namespace NasWatch

def start (settings : NasSettings) (wire : Dsm.Wire) : Except Dsm.Error NasWatch :=
  (Dsm.Client.ofEntry settings.data).map fun client =>
    { client, supervisor := .start () settings.entry { session := .fresh, wire } }

/-- The watch after some more seconds. Calls take no time. -/
def advance (seconds : Nat) (watch : NasWatch) : NasWatch :=
  { watch with supervisor := watch.supervisor.advance watch.client.api (fun _ _ => 0) seconds }

def withReplies (replies : List Dsm.Reply) (watch : NasWatch) : NasWatch :=
  let state := watch.supervisor.world
  { watch with supervisor := { watch.supervisor with
      world := { state with wire := { state.wire with replies } } } }

def shutdown (watch : NasWatch) : NasWatch :=
  { watch with supervisor := watch.supervisor.shutdown watch.client.api }

def log (watch : NasWatch) : List Log.Event :=
  watch.supervisor.log

end NasWatch

structure Application where
  config : Config
  service : Service Tracker.Recorder
  nas : Option NasWatch
  workerTask : Nat

namespace Application

def watchNas (config : Config) (wire : Dsm.Wire) : Option NasWatch × List Log.Event :=
  match config.nas with
  | none => (none, [])
  | some settings =>
    match NasWatch.start settings wire with
    | .ok watch => (some watch, [])
    | .error cause => (none, [noClientLog cause])

def openTable (config : Config) (files : String → Tracker.FileState) :
    Except Tracker.DatabaseError Tracker.Table := do
  let database ← Tracker.Database.connect files config.databaseUrl
  database.migratedTable

def startService (config : Config) (table : Tracker.Table) (now : Instant) :
    Option (Service Tracker.Recorder) :=
  (Service.start? config.webhook config.limits Tracker.sink { table, now }).map fun service =>
    match config.mode with
    | .development => service.beat.1
    | _ => service

def startOver (config : Config) (surroundings : Surroundings) (table : Tracker.Table) :
    Except StartError Application × List Log.Event :=
  match Dispatch.Queue.start? config.limits with
  | none => (.error .crash, [])
  | some _ =>
    let (nas, nasLog) := watchNas config surroundings.wire
    let log := nasLog ++ [startingLog config]
    match surroundings.listen config.address with
    | some cause => (.error (.socket cause), log)
    | none =>
      match startService config table surroundings.now with
      | none => (.error .crash, log)
      | some service => (.ok { config, service, nas, workerTask := surroundings.workerTask }, log)

def startWith (config : Config) (surroundings : Surroundings) :
    Except StartError Application × List Log.Event :=
  match openTable config surroundings.files with
  | .error cause => (.error (.database cause), [initializedLog config])
  | .ok table =>
    let (result, log) := startOver config surroundings table
    (result, initializedLog config :: log)

def start (environment : Environment) (surroundings : Surroundings) :
    Except StartError Application × List Log.Event :=
  match Config.load environment with
  | .error cause => (.error (.config cause), [])
  | .ok config => startWith config surroundings

/-! ### Running and stopping -/

def watch (seconds : Nat) (application : Application) : Application × List Log.Event :=
  match application.nas with
  | none => (application, [])
  | some watch =>
    let later := watch.advance seconds
    ({ application with nas := some later }, later.log.drop watch.log.length)

def request (arrival : Arrival) (application : Application) :
    Option Http.Response × Application × List Log.Event :=
  let (response, service, trail) := application.service.request arrival
  (response, { application with service }, trail.log)

def stop (application : Application) : List Log.Event :=
  let (service, trail) := application.service.close id
  let nasLog := match application.nas with
    | none => []
    | some watch => watch.shutdown.log.drop watch.log.length
  let lost := match service.queue.worker with
    | .lost => [lostWorkerLog application.workerTask]
    | _ => []
  [plainLog "shutdown signal received"] ++ trail.log ++ [plainLog "HTTP server stopped"]
    ++ nasLog ++ lost

end Application

/-! ### Whole runs -/

structure Run where
  result : Except StartError Unit
  log : List Log.Event
  format : Log.Format

namespace Run

/-- How an application ends that is interrupted as soon as the first setup of its NAS is over, and
what it logs. -/
def outcome (environment : Environment) (surroundings : Surroundings) :
    Except StartError Unit × List Log.Event :=
  match Application.start environment surroundings with
  | (.error cause, log) => (.error cause, log)
  | (.ok application, log) =>
    let (application, watched) := application.watch 0
    (.ok (), log ++ watched ++ application.stop)

def interrupted (environment : Environment) (surroundings : Surroundings) : Run :=
  let (result, log) := outcome environment surroundings
  { result
    log := log.filter environment.logFilter.accepts
    format := match Config.load environment with
      | .ok config => config.mode.logFormat
      | .error _ => .lines }

def exitCode (run : Run) : Nat :=
  match run.result with
  | .ok _ => 0
  | .error cause => cause.exitCode

def report? (run : Run) : Option String :=
  match run.result with
  | .ok _ => some ""
  | .error cause => cause.report?

def isBeside (event : Log.Event) : Bool :=
  event.field? "stage" == some (.text "nas") || event.field? "stage" == some (.text "dispatch")

end Run

end PresenceGateway
