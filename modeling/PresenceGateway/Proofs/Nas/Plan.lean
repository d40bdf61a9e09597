import PresenceGateway.Nas.Setup
/-!
Which calls a program can make, whatever it is answered. A setup opens with the login, and what
comes after the login neither logs in again nor closes the session. `Program.each` makes given calls one
after the other.
-/
namespace PresenceGateway.Nas

variable {Handle Result : Type}

/-- Every call that the program can come to is an allowed one. -/
def Program.Only (allowed : Call → Prop) : Program Handle Result → Prop
  | .done _ => True
  | .call _ what next => allowed what ∧ ∀ reply, (next reply).Only allowed
  | .available _ next => ∀ names, (next names).Only allowed

def Call.Quiet (what : Call) : Prop :=
  what ≠ .setup ∧ what ≠ .unload

namespace Setup

variable {allowed : Call → Prop} {entry : Entry} {api : Handle}

theorem attempt_only {what : Call} {next : what.Reply → Program Handle (SetupResult Handle)}
    (permitted : allowed what) (later : ∀ reply, (next reply).Only allowed) :
    (attempt entry api what next).Only allowed := by
  refine ⟨permitted, fun reply => ?_⟩
  cases reply with
  | error cause => exact True.intro
  | ok answer => exact later answer

theorem withMacs_only {next : Entry → Program Handle (SetupResult Handle)}
    (permitted : allowed .networkMacs) (later : ∀ entry, (next entry).Only allowed) :
    (withMacs entry api next).Only allowed := by
  unfold withMacs
  split
  · exact attempt_only permitted fun macs => later _
  · exact later entry

theorem firstRefresh_only {domain : Domain}
    {next : Coordinator → Program Handle (SetupResult Handle)}
    (permitted : allowed (.fetch domain)) (later : ∀ coordinator, (next coordinator).Only allowed) :
    (firstRefresh entry api domain next).Only allowed :=
  attempt_only permitted fun _ => later _

theorem withCameras_only {offered : List String}
    {next : Option Coordinator → Program Handle (SetupResult Handle)}
    (permitted : allowed (.fetch .cameras)) (later : ∀ cameras, (next cameras).Only allowed) :
    (withCameras entry api offered next).Only allowed := by
  unfold withCameras
  split
  · exact firstRefresh_only permitted fun cameras => later (some cameras)
  · exact later none

theorem withSwitches_only {offered : List String}
    {next : Option Coordinator → Program Handle (SetupResult Handle)}
    (permitted : allowed (.fetch .switches)) (prepared : allowed .setupSwitches)
    (later : ∀ switches, (next switches).Only allowed) :
    (withSwitches entry api offered next).Only allowed := by
  unfold withSwitches
  split
  · exact firstRefresh_only permitted fun switches =>
      attempt_only prepared fun _ => later (some switches)
  · exact later none

def afterLogin (entry : Entry) (api : Handle) : Program Handle (SetupResult Handle) :=
  withMacs entry api fun entry =>
    firstRefresh entry api .central fun central =>
      .available api fun offered =>
        withCameras entry api offered fun cameras =>
          withSwitches entry api offered fun switches =>
            .done (entry, .ok { api, central, cameras, switches })

def answered (entry : Entry) (api : Handle) :
    Except NasError Unit → Program Handle (SetupResult Handle)
  | .error cause => .done (entry, .error (.ofNasError cause))
  | .ok _ => afterLogin entry api

theorem afterLogin_quiet : (afterLogin entry api).Only Call.Quiet := by
  have quiet (what : Call) (other : what ≠ .setup) (kept : what ≠ .unload) : what.Quiet :=
    ⟨other, kept⟩
  apply withMacs_only (quiet _ (by simp) (by simp))
  intro entry
  apply firstRefresh_only (quiet _ (by simp) (by simp))
  intro central offered
  apply withCameras_only (quiet _ (by simp) (by simp))
  intro cameras
  apply withSwitches_only (quiet _ (by simp) (by simp)) (quiet _ (by simp) (by simp))
  intro switches
  exact True.intro

end Setup

/-- A setup logs in first, and a refused login is its end. -/
theorem setupEntry_eq (entry : Entry) (api : Handle) :
    setupEntry entry api = .call api .setup (Setup.answered entry.migrated api) := by
  refine congrArg (Program.call api .setup) (funext fun reply => ?_)
  cases reply with
  | error cause => rfl
  | ok answer => rfl

/-! ### Calls one after the other -/

namespace Program

variable {World Next : Type}

theorem run_bind (interface : Api Handle World) (program : Program Handle Result)
    (next : Result → Program Handle Next) (world : World) :
    (program.bind next).run interface world =
      (next (program.run interface world).1).run interface (program.run interface world).2 := by
  induction program generalizing world with
  | done result => rfl
  | call api what later ih => exact ih _ _
  | available api later ih => exact ih _ _

def each (api : Handle) :
    List Call → Program Handle (List ((what : Call) × Except NasError what.Reply × List String))
  | [] => .done []
  | what :: rest =>
    .call api what fun reply => .available api fun names =>
      (each api rest).bind fun replies => .done (⟨what, reply, names⟩ :: replies)

theorem run_each_cons (interface : Api Handle World) (api : Handle) (what : Call)
    (rest : List Call) (world : World) :
    ((each api (what :: rest)).run interface world).1 =
      ⟨what, (interface.call api what world).1,
        interface.available api (interface.call api what world).2⟩ ::
        ((each api rest).run interface (interface.call api what world).2).1 := by
  rw [each, run, run, run_bind, run]

end Program

end PresenceGateway.Nas
