import PresenceGateway.Nas.Registry
import PresenceGateway.Metrics
/-!
The supervisor of one entry, second by second.

The supervisor sets the entry up, tries again 60 seconds after a setup that was not ready, and stops
for good when the credentials are refused. Once the entry is set up, each of its coordinators is
refreshed again and again: the first time one period after the setup, then one period after the
start of the refresh before, or when that one ends if it takes longer. Calls may take time, and
nothing else does.
-/
namespace PresenceGateway.Nas

open Json (Value)

def retryDelay : Nat := 60

/-- A setup that waits for a call to end: the call, the time at which it ends, and how the setup
goes on with the answer. -/
structure Attempt (Handle : Type) where
  api : Handle
  what : Call
  ends : Nat
  next : Except NasError what.Reply → Program Handle (SetupResult Handle)

/-- The repeated refreshing of a domain: when the next refresh starts, and when the one under way
ends and with what. -/
structure Poller where
  domain : Domain
  next : Nat
  running : Option (Nat × Except NasError Value)

inductive Phase (Handle : Type) where
  | waiting (start : Nat)
  | settingUp (attempt : Attempt Handle)
  | refused
  | polling (pollers : List Poller)

structure Supervisor (Handle World : Type) where
  api : Handle
  entry : Entry
  registry : Registry Handle
  phase : Phase Handle
  world : World
  elapsed : Nat
  upcoming : Nat
  calls : List (Nat × Call)
  log : List Log.Event
  metrics : Metrics

namespace Supervisor

variable {Handle World : Type}

def start (api : Handle) (entry : Entry) (world : World) : Supervisor Handle World :=
  { api, entry, registry := .empty, phase := .waiting 0, world, elapsed := 0, upcoming := 0
    calls := [], log := [], metrics := [] }

def setupLog (entry : Entry) : Except SetupError (Runtime Handle) → Log.Event
  | .ok runtime => {
      level := .info, target := .nas, message := "NAS entry set up"
      fields := [
        ("stage", .text "nas"), ("entry_id", .shown entry.entryId),
        ("macs", .shown (Text.bracketed (entry.data.macs.map Text.quote))),
        ("cameras", .flag runtime.cameras.isSome),
        ("switches", .flag runtime.switches.isSome)] }
  | .error (.authFailed reason) => {
      level := .error, target := .nas, message := "NAS rejected the credentials"
      fields := [
        ("stage", .text "nas"), ("entry_id", .shown entry.entryId), ("reason", .shown reason)] }
  | .error (.notReady reason) => {
      level := .warn, target := .nas, message := "NAS entry not ready"
      fields := [
        ("stage", .text "nas"), ("entry_id", .shown entry.entryId), ("reason", .shown reason),
        ("retry_in_secs", .number retryDelay)] }

def endSetup (time : Nat) (result : SetupResult Handle) (s : Supervisor Handle World) :
    Supervisor Handle World :=
  let s := { s with entry := result.1, log := s.log ++ [setupLog result.1 result.2] }
  match result.2 with
  | .ok runtime =>
    { s with
      registry := s.registry.insert s.entry.uniqueId runtime
      phase := .polling (runtime.coordinators.map fun coordinator =>
        { domain := coordinator.domain
          next := time + coordinator.domain.period
          running := none }) }
  | .error (.authFailed _) => { s with phase := .refused }
  | .error (.notReady _) => { s with phase := .waiting (time + retryDelay) }

def proceed (interface : Api Handle World) (duration : Call → World → Nat) (time : Nat) :
    Program Handle (SetupResult Handle) → Supervisor Handle World → Supervisor Handle World
  | .done result, s => s.endSetup time result
  | .available api next, s =>
    proceed interface duration time (next (interface.available api s.world)) s
  | .call api what next, s =>
    let s := { s with calls := s.calls ++ [(time, what)] }
    let length := duration what s.world
    if length = 0 then
      let (reply, world) := interface.call api what s.world
      proceed interface duration time (next reply) { s with world }
    else { s with phase := .settingUp { api, what, ends := time + length, next } }

def beginSetup (interface : Api Handle World) (duration : Call → World → Nat) (time : Nat)
    (s : Supervisor Handle World) : Supervisor Handle World :=
  let s := { s with log := s.log ++ s.entry.migrationLog }
  s.proceed interface duration time (setupEntry s.entry s.api)

def continueSetup (interface : Api Handle World) (duration : Call → World → Nat) (time : Nat)
    (attempt : Attempt Handle) (s : Supervisor Handle World) : Supervisor Handle World :=
  if attempt.ends = time then
    let (reply, world) := interface.call attempt.api attempt.what s.world
    { s with world }.proceed interface duration time (attempt.next reply)
  else s

def refreshLog (domain : Domain) : Except NasError Value → List Log.Event
  | .ok _ => []
  | .error cause => [{
      level := .warn, target := .nas, message := "NAS refresh failed"
      fields := [
        ("stage", .text "nas"), ("domain", .text domain.text),
        ("error", .shown cause.message)] }]

def refreshResult : Except NasError Value → String
  | .ok _ => "ok"
  | .error _ => "error"

def receive (domain : Domain) (reply : Except NasError Value) (s : Supervisor Handle World) :
    Supervisor Handle World :=
  let id := s.entry.uniqueId
  let registry := match (s.registry.get? id).bind (·.coordinator? domain) with
    | none => s.registry
    | some coordinator =>
      s.registry.withCoordinator id domain (coordinator.receive reply)
  { s with
    registry
    metrics := s.metrics ++ [(.refresh domain.text (refreshResult reply), 1)]
    log := s.log ++ refreshLog domain reply }

def endRefresh (time : Nat) (poller : Poller) (s : Supervisor Handle World) :
    Poller × Supervisor Handle World :=
  match poller.running with
  | some (ends, reply) =>
    if ends = time then ({ poller with running := none }, s.receive poller.domain reply)
    else (poller, s)
  | none => (poller, s)

def beginRefresh (interface : Api Handle World) (duration : Call → World → Nat) (time : Nat)
    (poller : Poller) (s : Supervisor Handle World) : Poller × Supervisor Handle World :=
  if poller.next = time then
    let what := Call.fetch poller.domain
    let (reply, world) := interface.call s.api what s.world
    let length := duration what s.world
    let begun : Poller := { poller with
      next := time + max poller.domain.period length
      running := some (time + length, reply) }
    endRefresh time begun { s with world, calls := s.calls ++ [(time, what)] }
  else (poller, s)

def poll (interface : Api Handle World) (duration : Call → World → Nat) (time : Nat)
    (poller : Poller) (s : Supervisor Handle World) : Poller × Supervisor Handle World :=
  let (poller, s) := endRefresh time poller s
  beginRefresh interface duration time poller s

def pollAll (interface : Api Handle World) (duration : Call → World → Nat) (time : Nat) :
    List Poller → Supervisor Handle World → List Poller × Supervisor Handle World
  | [], s => ([], s)
  | poller :: rest, s =>
    let (poller, s) := poll interface duration time poller s
    let (rest, s) := pollAll interface duration time rest s
    (poller :: rest, s)

def second (interface : Api Handle World) (duration : Call → World → Nat) (time : Nat)
    (s : Supervisor Handle World) : Supervisor Handle World :=
  match s.phase with
  | .waiting start =>
    if start = time then s.beginSetup interface duration time else s
  | .settingUp attempt => s.continueSetup interface duration time attempt
  | .refused => s
  | .polling pollers =>
    let (pollers, s) := pollAll interface duration time pollers s
    { s with phase := .polling pollers }

/-- Everything that is due in some seconds, beginning with the first one that is not done yet. -/
def seconds (interface : Api Handle World) (duration : Call → World → Nat) :
    Nat → Supervisor Handle World → Supervisor Handle World
  | 0, s => s
  | count + 1, s =>
    let s := s.second interface duration s.upcoming
    seconds interface duration count { s with upcoming := s.upcoming + 1 }

def advance (interface : Api Handle World) (duration : Call → World → Nat) (time : Nat)
    (s : Supervisor Handle World) : Supervisor Handle World :=
  let s := { s with elapsed := s.elapsed + time }
  seconds interface duration (s.elapsed + 1 - s.upcoming) s

def unloadLog (id : String) : Except NasError Bool → List Log.Event
  | .ok true => [{
      level := .info, target := .nas, message := "NAS entry unloaded"
      fields := [("stage", .text "nas"), ("unique_id", .shown id)] }]
  | .ok false => []
  | .error cause => [{
      level := .warn, target := .nas, message := "failed to close NAS session"
      fields := [
        ("stage", .text "nas"), ("unique_id", .shown id), ("error", .shown cause.message)] }]

/-- Stops whatever is under way and closes the session of an entry that is set up. -/
def shutdown (interface : Api Handle World) (s : Supervisor Handle World) :
    Supervisor Handle World :=
  let id := s.entry.uniqueId
  let program := s.registry.unload id
  let ((unloaded, registry), world) := program.run interface s.world
  { s with
    registry, world, phase := .refused
    calls := s.calls ++ (program.calls interface s.world).map fun call => (s.elapsed, call.2)
    log := s.log ++ unloadLog id unloaded }

end Supervisor

end PresenceGateway.Nas
