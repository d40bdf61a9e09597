import PresenceGateway.Nas.Program
/-!
Setting up an entry.

An entry is brought up to date before the NAS is contacted. Then the session is opened, the network
addresses are asked for when the entry has none, and each domain that the NAS offers is fetched
once. The first failure ends the setup. What the entry has learned by then stays with it.
-/
namespace PresenceGateway.Nas

open Json (Value)

def cameraApi : String := "SYNO.SurveillanceStation.Camera"

def infoApi : String := "SYNO.SurveillanceStation.Info"

def homeModeApi : String := "SYNO.SurveillanceStation.HomeMode"

structure Coordinator where
  domain : Domain
  data : Option Value

namespace Coordinator

def new (domain : Domain) : Coordinator := { domain, data := none }

def receive (coordinator : Coordinator) : Except NasError Value → Coordinator
  | .ok data => { coordinator with data := some data }
  | .error _ => coordinator

def refresh {Handle : Type} (coordinator : Coordinator) (api : Handle) :
    Program Handle (Except NasError Unit × Coordinator) :=
  .call api (.fetch coordinator.domain) fun reply =>
    .done (reply.map fun _ => (), coordinator.receive reply)

end Coordinator

structure Runtime (Handle : Type) where
  api : Handle
  central : Coordinator
  cameras : Option Coordinator
  switches : Option Coordinator

namespace Runtime

variable {Handle : Type}

def coordinators (runtime : Runtime Handle) : List Coordinator :=
  runtime.central :: (runtime.cameras.toList ++ runtime.switches.toList)

def coordinator? (runtime : Runtime Handle) : Domain → Option Coordinator
  | .central => some runtime.central
  | .cameras => runtime.cameras
  | .switches => runtime.switches

def withCoordinator (runtime : Runtime Handle) (domain : Domain) (coordinator : Coordinator) :
    Runtime Handle :=
  match domain with
  | .central => { runtime with central := coordinator }
  | .cameras => { runtime with cameras := runtime.cameras.map fun _ => coordinator }
  | .switches => { runtime with switches := runtime.switches.map fun _ => coordinator }

end Runtime

/-- What a setup ends with: the entry as it is then, and the runtime or the reason for none. -/
abbrev SetupResult (Handle : Type) := Entry × Except SetupError (Runtime Handle)

namespace Setup

variable {Handle : Type}

def attempt (entry : Entry) (api : Handle) (what : Call)
    (next : what.Reply → Program Handle (SetupResult Handle)) :
    Program Handle (SetupResult Handle) :=
  .call api what fun reply =>
    match reply with
    | .error cause => .done (entry, .error (.ofNasError cause))
    | .ok answer => next answer

/-- Asks for the network addresses when the entry has none. -/
def withMacs (entry : Entry) (api : Handle)
    (next : Entry → Program Handle (SetupResult Handle)) : Program Handle (SetupResult Handle) :=
  if entry.data.macs.isEmpty then
    attempt entry api .networkMacs fun macs =>
      next { entry with data := { entry.data with macs } }
  else next entry

def firstRefresh (entry : Entry) (api : Handle) (domain : Domain)
    (next : Coordinator → Program Handle (SetupResult Handle)) :
    Program Handle (SetupResult Handle) :=
  attempt entry api (.fetch domain) fun data => next { domain, data := some data }

def withCameras (entry : Entry) (api : Handle) (offered : List String)
    (next : Option Coordinator → Program Handle (SetupResult Handle)) :
    Program Handle (SetupResult Handle) :=
  if offered.contains cameraApi then
    firstRefresh entry api .cameras fun cameras => next (some cameras)
  else next none

def withSwitches (entry : Entry) (api : Handle) (offered : List String)
    (next : Option Coordinator → Program Handle (SetupResult Handle)) :
    Program Handle (SetupResult Handle) :=
  if offered.contains infoApi && offered.contains homeModeApi then
    firstRefresh entry api .switches fun switches =>
      attempt entry api .setupSwitches fun _ => next (some switches)
  else next none

end Setup

def setupEntry {Handle : Type} (entry : Entry) (api : Handle) :
    Program Handle (SetupResult Handle) :=
  let entry := entry.migrated
  Setup.attempt entry api .setup fun _ =>
    Setup.withMacs entry api fun entry =>
      Setup.firstRefresh entry api .central fun central =>
        .available api fun offered =>
          Setup.withCameras entry api offered fun cameras =>
            Setup.withSwitches entry api offered fun switches =>
              .done (entry, .ok { api, central, cameras, switches })

end PresenceGateway.Nas
