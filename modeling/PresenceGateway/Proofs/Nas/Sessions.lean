import PresenceGateway.Nas.Script
import PresenceGateway.Nas.Supervisor
import PresenceGateway.Proofs.Nas.Registry
/-!
The sessions that a supervisor opens on its NAS, and which of them it closes.

Each call that is answered is written down beside the world. A login that succeeds opens a session
and an unload closes what is open. Only an entry that reached the registry is unloaded, so the
sessions are contained exactly in the runs in which every attempt that logged in reached it.
-/
namespace PresenceGateway.Nas

variable {Handle World : Type}

/-! ### What is written down -/

structure Return where
  what : Call
  succeeded : Bool
deriving DecidableEq

/-- The same interface over a world beside which the answered calls are written down, in order. -/
def Api.recorded (interface : Api Handle World) : Api Handle (World × List Return) :=
  { call := fun api what state =>
      let (reply, world) := interface.call api what state.1
      (reply, world, state.2 ++ [{ what, succeeded := reply.toBool }])
    available := fun api state => interface.available api state.1 }

def afterReturn (opened : Nat) (answered : Return) : Nat :=
  match answered.what, answered.succeeded with
  | .setup, true => opened + 1
  | .unload, _ => 0
  | _, _ => opened

/-- How many sessions are open after some calls were answered: the logins that succeeded and were
not followed by an unload. -/
def openSessions (history : List Return) : Nat :=
  history.foldl afterReturn 0

/-- The law of sessions: there is never more than one, and in the end there is none. -/
structure Contained (history : List Return) : Prop where
  atMostOne : ∀ front, front <+: history → openSessions front ≤ 1
  noneLeft : openSessions history = 0

def logins (history : List Return) : Nat :=
  history.count ⟨.setup, true⟩

def refusals (history : List Return) : Nat :=
  history.count ⟨.setup, false⟩

def isFailedSetup (event : Log.Event) : Bool :=
  event.message == "NAS entry not ready" || event.message == "NAS rejected the credentials"

def failures (log : List Log.Event) : Nat :=
  log.countP isFailedSetup

def Phase.loggedIn : Phase Handle → Bool
  | .settingUp attempt => decide (attempt.what ≠ .setup)
  | _ => false

def Supervisor.registered (s : Supervisor Handle World) : Bool :=
  (s.registry.get? s.entry.uniqueId).isSome

def Supervisor.watched (interface : Api Handle World) (duration : Call → World → Nat) (api : Handle)
    (entry : Entry) (world : World) (stretches : List Nat) :
    Supervisor Handle (World × List Return) :=
  stretches.foldl
    (fun s time => s.advance interface.recorded (fun what state => duration what state.1) time)
    (.start api entry (world, []))

/-! ### Sessions without an unload -/

theorem afterReturn_eq {answered : Return} (kept : answered.what ≠ .unload) (opened : Nat) :
    afterReturn opened answered = opened + logins [answered] := by
  obtain ⟨what, succeeded⟩ := answered
  cases what with
  | setup => cases succeeded <;> rfl
  | unload => exact absurd rfl kept
  | networkMacs => rfl
  | fetch domain => rfl
  | setupSwitches => rfl

theorem logins_append (first second : List Return) :
    logins (first ++ second) = logins first + logins second :=
  List.count_append

theorem refusals_append (first second : List Return) :
    refusals (first ++ second) = refusals first + refusals second :=
  List.count_append

theorem failures_append (first second : List Log.Event) :
    failures (first ++ second) = failures first + failures second :=
  List.countP_append

/-- As long as nothing was unloaded, every login that succeeded is still open. -/
theorem openSessions_eq_logins {history : List Return}
    (neverUnloaded : ∀ answered ∈ history, answered.what ≠ .unload) :
    openSessions history = logins history := by
  have counted (opened : Nat) : history.foldl afterReturn opened = opened + logins history := by
    induction history generalizing opened with
    | nil => rfl
    | cons answered rest ih =>
        rw [List.foldl_cons, afterReturn_eq (neverUnloaded answered List.mem_cons_self),
          ih fun other member => neverUnloaded other (List.mem_cons_of_mem _ member),
          Nat.add_assoc, ← logins_append, List.singleton_append]
  rw [openSessions, counted, Nat.zero_add]

/-- Without an unload at the end, the sessions are contained when nobody logged in. -/
theorem contained_iff_of_open {history : List Return}
    (neverUnloaded : ∀ answered ∈ history, answered.what ≠ .unload) :
    Contained history ↔ logins history = 0 := by
  rw [← openSessions_eq_logins neverUnloaded]
  constructor
  · exact Contained.noneLeft
  · intro none
    refine ⟨fun front isFront => ?_, none⟩
    obtain ⟨rest, rfl⟩ := isFront
    rw [openSessions_eq_logins neverUnloaded, logins_append] at none
    rw [openSessions_eq_logins fun answered member =>
      neverUnloaded answered (List.mem_append_left _ member)]
    omega

/-- With one unload at the end, the sessions are contained when somebody logged in at most once. -/
theorem contained_iff_of_unload {history : List Return} (succeeded : Bool)
    (neverUnloaded : ∀ answered ∈ history, answered.what ≠ .unload) :
    Contained (history ++ [⟨.unload, succeeded⟩]) ↔ logins history ≤ 1 := by
  have closed : openSessions (history ++ [⟨.unload, succeeded⟩]) = 0 := by
    rw [openSessions, List.foldl_append]
    rfl
  constructor
  · intro contained
    have before := contained.atMostOne history (List.prefix_append _ _)
    rwa [openSessions_eq_logins neverUnloaded] at before
  · intro once
    refine ⟨fun front isFront => ?_, closed⟩
    rcases List.prefix_concat_iff.mp isFront with whole | inside
    · rw [whole, closed]
      exact Nat.zero_le 1
    · obtain ⟨rest, rfl⟩ := inside
      rw [logins_append] at once
      rw [openSessions_eq_logins fun answered member =>
        neverUnloaded answered (List.mem_append_left _ member)]
      omega

/-! ### The books of a supervisor -/

def Attempt.program (attempt : Attempt Handle) : Program Handle (SetupResult Handle) :=
  .call attempt.api attempt.what attempt.next

/-- What holds while an attempt that has logged in goes on. -/
structure Midway (s : Supervisor Handle (World × List Return)) : Prop where
  neverUnloaded : ∀ answered ∈ s.world.2, answered.what ≠ .unload
  refusalsLogged : refusals s.world.2 ≤ failures s.log
  balance : logins s.world.2 + refusals s.world.2 = failures s.log + 1
  unregistered : s.registry = .empty

/-- What holds of a supervisor from second to second. Each login that succeeded belongs to an
attempt that failed later, to the attempt under way, or to the entry in the registry. -/
structure Balanced (s : Supervisor Handle (World × List Return)) : Prop where
  neverUnloaded : ∀ answered ∈ s.world.2, answered.what ≠ .unload
  refusalsLogged : refusals s.world.2 ≤ failures s.log
  balance : logins s.world.2 + refusals s.world.2 =
    failures s.log + s.phase.loggedIn.toNat + s.registered.toNat
  unregistered : (∀ pollers, s.phase ≠ .polling pollers) → s.registry = .empty
  planned : ∀ attempt, s.phase = .settingUp attempt →
    attempt.program = setupEntry s.entry s.api ∨ attempt.program.Only Call.Quiet

theorem failures_setupLog_ok (entry : Entry) (runtime : Runtime Handle) :
    failures [Supervisor.setupLog entry (.ok runtime)] = 0 := by
  simp [failures, isFailedSetup, Supervisor.setupLog]

theorem failures_setupLog_error (entry : Entry) (cause : SetupError) :
    failures [Supervisor.setupLog entry (.error cause : Except SetupError (Runtime Handle))] =
      1 := by
  cases cause <;> simp [failures, isFailedSetup, Supervisor.setupLog]

/-- Between two attempts and after the last one nothing is registered, and every login that
succeeded is matched by a failure. -/
theorem Balanced.of_resting {s : Supervisor Handle (World × List Return)}
    (resting : (∃ start, s.phase = .waiting start) ∨ s.phase = .refused)
    (neverUnloaded : ∀ answered ∈ s.world.2, answered.what ≠ .unload)
    (balance : logins s.world.2 + refusals s.world.2 = failures s.log)
    (unregistered : s.registry = .empty) : Balanced s := by
  have absent : s.registered = false := by
    rw [Supervisor.registered, unregistered]
    rfl
  have outside : s.phase.loggedIn = false ∧ ∀ attempt, s.phase ≠ .settingUp attempt := by
    rcases resting with ⟨start, phase⟩ | phase <;> rw [phase] <;> simp [Phase.loggedIn]
  exact {
    neverUnloaded
    refusalsLogged := by omega
    balance := by rw [absent, outside.1, balance]; rfl
    unregistered := fun _ => unregistered
    planned := fun attempt underWay => absurd underWay (outside.2 attempt) }

theorem endSetup_error (time : Nat) (entry : Entry) (cause : SetupError)
    (s : Supervisor Handle World) :
    ∃ phase, ((∃ start, phase = .waiting start) ∨ phase = .refused) ∧
      s.endSetup time (entry, .error cause) = { s with
        entry, phase
        log := s.log ++
          [Supervisor.setupLog entry (.error cause : Except SetupError (Runtime Handle))] } := by
  cases cause with
  | authFailed reason => exact ⟨.refused, .inr rfl, rfl⟩
  | notReady reason => exact ⟨.waiting (time + retryDelay), .inl ⟨_, rfl⟩, rfl⟩

/-- An attempt that fails after its login leaves a failure for the session that it opened; one that
succeeds leaves the entry in the registry. -/
theorem Midway.endSetup {s : Supervisor Handle (World × List Return)} (midway : Midway s)
    (time : Nat) (result : SetupResult Handle) : Balanced (s.endSetup time result) := by
  obtain ⟨neverUnloaded, refusalsLogged, balance, unregistered⟩ := midway
  obtain ⟨entry, outcome⟩ := result
  cases outcome with
  | ok runtime =>
      have logged : failures (s.log ++ [Supervisor.setupLog entry (.ok runtime)]) =
          failures s.log := by
        rw [failures_append, failures_setupLog_ok, Nat.add_zero]
      have registered : (s.registry.insert entry.uniqueId runtime).get? entry.uniqueId =
          some runtime := (Registry.get?_insert ..).trans (if_pos rfl)
      exact {
        neverUnloaded
        refusalsLogged := by
          simpa only [Supervisor.endSetup, logged] using refusalsLogged
        balance := by
          simpa [Supervisor.endSetup, Supervisor.registered, Phase.loggedIn, logged, registered]
            using balance
        unregistered := fun notPolling => absurd rfl (notPolling _)
        planned := by
          intro attempt impossible
          cases impossible }
  | error cause =>
      obtain ⟨phase, resting, after⟩ := endSetup_error time entry cause s
      rw [after]
      refine Balanced.of_resting resting neverUnloaded ?_ unregistered
      change logins s.world.2 + refusals s.world.2 = failures (s.log ++ [_])
      rw [failures_append, failures_setupLog_error, balance]

theorem Midway.suspend {s : Supervisor Handle (World × List Return)} (midway : Midway s)
    (attempt : Attempt Handle) (quiet : attempt.program.Only Call.Quiet) :
    Balanced { s with phase := .settingUp attempt } := by
  have absent : (s.registry.get? s.entry.uniqueId).isSome = false := by
    rw [midway.unregistered]
    rfl
  have loggedIn : decide (attempt.what ≠ .setup) = true := decide_eq_true quiet.1.1
  exact {
    neverUnloaded := midway.neverUnloaded
    refusalsLogged := midway.refusalsLogged
    balance := by
      simp only [Phase.loggedIn, Supervisor.registered, absent, loggedIn]
      exact midway.balance
    unregistered := fun _ => midway.unregistered
    planned := by
      intro other same
      cases same
      exact .inr quiet }

theorem Api.recorded_call_world (interface : Api Handle World) (api : Handle) (what : Call)
    (state : World × List Return) :
    (interface.recorded.call api what state).2.2 =
      state.2 ++ [⟨what, (interface.recorded.call api what state).1.toBool⟩] :=
  rfl

theorem quiet_return {what : Call} (quiet : what.Quiet) (succeeded : Bool) :
    logins [⟨what, succeeded⟩] = 0 ∧ refusals [⟨what, succeeded⟩] = 0 := by
  have other (known : Bool) : (⟨what, succeeded⟩ : Return) ≠ ⟨.setup, known⟩ :=
    fun same => quiet.1 (congrArg Return.what same)
  constructor
  · exact List.count_eq_zero.mpr fun member => other true (List.mem_singleton.mp member).symm
  · exact List.count_eq_zero.mpr fun member => other false (List.mem_singleton.mp member).symm

theorem neverUnloaded_append {history : List Return} {what : Call} (succeeded : Bool)
    (before : ∀ answered ∈ history, answered.what ≠ .unload) (kept : what ≠ .unload) :
    ∀ answered ∈ history ++ [⟨what, succeeded⟩], answered.what ≠ .unload := by
  intro answered member
  rcases List.mem_append.mp member with earlier | last
  · exact before answered earlier
  · rw [List.mem_singleton.mp last]
    exact kept

section Steps

variable (interface : Api Handle World) (duration : Call → World × List Return → Nat)

theorem Midway.answer {s : Supervisor Handle (World × List Return)} (midway : Midway s)
    {what : Call} (quiet : what.Quiet) (api : Handle) :
    Midway { s with world := (interface.recorded.call api what s.world).2 } := by
  have unchanged := quiet_return quiet (interface.recorded.call api what s.world).1.toBool
  exact {
    neverUnloaded := by
      rw [Api.recorded_call_world]
      exact neverUnloaded_append _ midway.neverUnloaded quiet.2
    refusalsLogged := by
      rw [Api.recorded_call_world, refusals_append, unchanged.2, Nat.add_zero]
      exact midway.refusalsLogged
    balance := by
      rw [Api.recorded_call_world, logins_append, refusals_append, unchanged.1, unchanged.2]
      exact midway.balance
    unregistered := midway.unregistered }

/-- However an attempt goes on after its login, the books are balanced when it ends or waits. -/
theorem Midway.proceed (time : Nat) (program : Program Handle (SetupResult Handle))
    (quiet : program.Only Call.Quiet) (s : Supervisor Handle (World × List Return))
    (midway : Midway s) : Balanced (s.proceed interface.recorded duration time program) := by
  induction program generalizing s with
  | done result => exact midway.endSetup time result
  | available api next ih => exact ih _ (quiet _) s midway
  | call api what next ih =>
      have called : Midway { s with calls := s.calls ++ [(time, what)] } := { midway with }
      unfold Supervisor.proceed
      dsimp only
      split
      · exact ih _ (quiet.2 _) _ (called.answer interface quiet.1 api)
      · exact called.suspend ⟨api, what, _, next⟩ quiet

/-- Before the login of an attempt, every login that succeeded is matched by a failure. -/
structure Ready (s : Supervisor Handle (World × List Return)) : Prop where
  neverUnloaded : ∀ answered ∈ s.world.2, answered.what ≠ .unload
  balance : logins s.world.2 + refusals s.world.2 = failures s.log
  unregistered : s.registry = .empty

/-- A refused login ends the attempt, and is logged as a failure; one that succeeds is on the books
until the attempt is over. -/
theorem Ready.answerLogin {s : Supervisor Handle (World × List Return)} (ready : Ready s)
    (time : Nat) (entry : Entry) (api : Handle) :
    Balanced (Supervisor.proceed interface.recorded duration time
      (Setup.answered entry api (interface.recorded.call api .setup s.world).1)
      { s with world := (interface.recorded.call api .setup s.world).2 }) := by
  have history := Api.recorded_call_world interface api .setup s.world
  have kept := neverUnloaded_append (interface.recorded.call api .setup s.world).1.toBool
    ready.neverUnloaded (show Call.setup ≠ .unload by simp)
  rw [← history] at kept
  have balance := ready.balance
  cases reply : (interface.recorded.call api .setup s.world).1 with
  | error cause =>
      rw [reply] at history
      obtain ⟨phase, resting, after⟩ := endSetup_error time entry (.ofNasError cause)
        { s with world := (interface.recorded.call api .setup s.world).2 }
      change Balanced (Supervisor.endSetup time (entry, .error (.ofNasError cause)) _)
      rw [after]
      refine Balanced.of_resting resting kept ?_ ready.unregistered
      dsimp only
      rw [history, failures_append, failures_setupLog_error, logins_append, refusals_append]
      have refused : logins [⟨.setup, false⟩] = 0 ∧ refusals [⟨.setup, false⟩] = 1 := ⟨rfl, rfl⟩
      change logins s.world.2 + logins [⟨.setup, false⟩] +
        (refusals s.world.2 + refusals [⟨.setup, false⟩]) = failures s.log + 1
      omega
  | ok _ =>
      rw [reply] at history
      refine Midway.proceed interface duration time _ Setup.afterLogin_quiet _ ?_
      have accepted : logins [⟨.setup, true⟩] = 1 ∧ refusals [⟨.setup, true⟩] = 0 := ⟨rfl, rfl⟩
      have counted : logins (interface.recorded.call api .setup s.world).2.2 =
          logins s.world.2 + 1 ∧
          refusals (interface.recorded.call api .setup s.world).2.2 = refusals s.world.2 := by
        rw [history, logins_append, refusals_append]
        exact ⟨rfl, rfl⟩
      exact {
        neverUnloaded := kept
        refusalsLogged := by
          dsimp only
          omega
        balance := by
          dsimp only
          omega
        unregistered := ready.unregistered }

theorem Ready.suspend {s : Supervisor Handle (World × List Return)} (ready : Ready s) (ends : Nat) :
    Balanced { s with
      phase := .settingUp ⟨s.api, .setup, ends, Setup.answered s.entry.migrated s.api⟩ } := by
  have absent : (s.registry.get? s.entry.uniqueId).isSome = false := by
    rw [ready.unregistered]
    rfl
  have balance := ready.balance
  exact {
    neverUnloaded := ready.neverUnloaded
    refusalsLogged := by
      dsimp only
      omega
    balance := by
      simp only [Phase.loggedIn, Supervisor.registered, absent]
      exact balance
    unregistered := fun _ => ready.unregistered
    planned := by
      intro attempt same
      cases same
      exact .inl (setupEntry_eq s.entry s.api).symm }

theorem failures_migrationLog (entry : Entry) : failures entry.migrationLog = 0 := by
  rw [failures, List.countP_eq_zero]
  intro event member
  obtain ⟨migration, _, rfl⟩ := List.mem_map.mp member
  simp [isFailedSetup]

theorem Ready.begin {s : Supervisor Handle (World × List Return)} (ready : Ready s) (time : Nat) :
    Balanced (s.beginSetup interface.recorded duration time) := by
  have logged : Ready { s with
      log := s.log ++ s.entry.migrationLog, calls := s.calls ++ [(time, .setup)] } := {
    neverUnloaded := ready.neverUnloaded
    balance := by
      dsimp only
      rw [failures_append, failures_migrationLog]
      exact ready.balance
    unregistered := ready.unregistered }
  unfold Supervisor.beginSetup
  dsimp only
  rw [setupEntry_eq]
  unfold Supervisor.proceed
  dsimp only
  split
  · exact logged.answerLogin interface duration time s.entry.migrated s.api
  · exact logged.suspend _

/-! ### Polling -/

/-- What holds while the entry is polled. -/
structure Steady (s : Supervisor Handle (World × List Return)) : Prop where
  neverUnloaded : ∀ answered ∈ s.world.2, answered.what ≠ .unload
  refusalsLogged : refusals s.world.2 ≤ failures s.log
  balance : logins s.world.2 + refusals s.world.2 = failures s.log + s.registered.toNat

theorem failures_refreshLog (domain : Domain) (reply : Except NasError Json.Value) :
    failures (Supervisor.refreshLog domain reply) = 0 := by
  cases reply with
  | ok data => rfl
  | error cause => simp [failures, isFailedSetup, Supervisor.refreshLog]

/-- A refresh that ends changes neither who is registered nor what was answered. -/
theorem Steady.receive {s : Supervisor Handle (World × List Return)} (steady : Steady s)
    (domain : Domain) (reply : Except NasError Json.Value) :
    Steady (s.receive domain reply) := by
  have registered : (s.receive domain reply).registered = s.registered := by
    unfold Supervisor.registered Supervisor.receive
    dsimp only
    split
    · rfl
    · rw [Registry.get?_withCoordinator, if_pos rfl, Option.isSome_map]
  have logged : failures (s.receive domain reply).log = failures s.log := by
    change failures (s.log ++ Supervisor.refreshLog domain reply) = _
    rw [failures_append, failures_refreshLog, Nat.add_zero]
  exact {
    neverUnloaded := steady.neverUnloaded
    refusalsLogged := by
      rw [logged]
      exact steady.refusalsLogged
    balance := by
      rw [logged, registered]
      exact steady.balance }

theorem Steady.endRefresh {s : Supervisor Handle (World × List Return)} (steady : Steady s)
    (time : Nat) (poller : Poller) : Steady (Supervisor.endRefresh time poller s).2 := by
  unfold Supervisor.endRefresh
  split
  · split
    · exact steady.receive _ _
    · exact steady
  · exact steady

theorem Steady.beginRefresh {s : Supervisor Handle (World × List Return)} (steady : Steady s)
    (time : Nat) (poller : Poller) :
    Steady (Supervisor.beginRefresh interface.recorded duration time poller s).2 := by
  unfold Supervisor.beginRefresh
  split
  · have quiet : (Call.fetch poller.domain).Quiet := ⟨by simp, by simp⟩
    have history := Api.recorded_call_world interface s.api (.fetch poller.domain) s.world
    have unchanged := quiet_return quiet
      (interface.recorded.call s.api (.fetch poller.domain) s.world).1.toBool
    refine Steady.endRefresh ⟨?_, ?_, ?_⟩ time _
    · dsimp only
      rw [history]
      exact neverUnloaded_append _ steady.neverUnloaded quiet.2
    · dsimp only
      rw [history, refusals_append, unchanged.2]
      exact steady.refusalsLogged
    · dsimp only
      rw [history, logins_append, refusals_append, unchanged.1, unchanged.2]
      exact steady.balance
  · exact steady

theorem Steady.pollAll {s : Supervisor Handle (World × List Return)} (steady : Steady s)
    (time : Nat) (pollers : List Poller) :
    Steady (Supervisor.pollAll interface.recorded duration time pollers s).2 := by
  induction pollers generalizing s with
  | nil => exact steady
  | cons poller rest ih =>
      exact ih ((steady.endRefresh time poller).beginRefresh interface duration time _)

/-! ### From second to second -/

theorem Balanced.ready {s : Supervisor Handle (World × List Return)} (balanced : Balanced s)
    (before : s.phase.loggedIn = false) (notPolling : ∀ pollers, s.phase ≠ .polling pollers) :
    Ready s := by
  have unregistered := balanced.unregistered notPolling
  have absent : s.registered = false := by
    rw [Supervisor.registered, unregistered]
    rfl
  have balance := balanced.balance
  rw [before, absent] at balance
  exact ⟨balanced.neverUnloaded, balance, unregistered⟩

theorem Balanced.midway {s : Supervisor Handle (World × List Return)} (balanced : Balanced s)
    (after : s.phase.loggedIn = true) (notPolling : ∀ pollers, s.phase ≠ .polling pollers) :
    Midway s := by
  have unregistered := balanced.unregistered notPolling
  have absent : s.registered = false := by
    rw [Supervisor.registered, unregistered]
    rfl
  have balance := balanced.balance
  rw [after, absent] at balance
  exact ⟨balanced.neverUnloaded, balanced.refusalsLogged, balance, unregistered⟩

theorem Balanced.continueSetup {s : Supervisor Handle (World × List Return)}
    (balanced : Balanced s) {attempt : Attempt Handle} (underWay : s.phase = .settingUp attempt)
    (time : Nat) : Balanced (s.continueSetup interface.recorded duration time attempt) := by
  have notPolling (pollers : List Poller) : s.phase ≠ .polling pollers := by
    rw [underWay]
    simp
  unfold Supervisor.continueSetup
  split
  · rcases balanced.planned attempt underWay with fresh | quiet
    · rw [setupEntry_eq] at fresh
      obtain ⟨api, what, ends, next⟩ := attempt
      cases fresh
      have before : s.phase.loggedIn = false := by
        rw [underWay]
        rfl
      exact (balanced.ready before notPolling).answerLogin interface duration time
        s.entry.migrated s.api
    · have after : s.phase.loggedIn = true := by
        rw [underWay]
        exact decide_eq_true quiet.1.1
      exact Midway.proceed interface duration time _ (quiet.2 _) _
        ((balanced.midway after notPolling).answer interface quiet.1 attempt.api)
  · exact balanced

theorem Balanced.second {s : Supervisor Handle (World × List Return)} (balanced : Balanced s)
    (time : Nat) : Balanced (s.second interface.recorded duration time) := by
  unfold Supervisor.second
  cases phase : s.phase with
  | waiting start =>
      dsimp only
      split
      · refine (balanced.ready ?_ ?_).begin interface duration time
        · rw [phase]
          rfl
        · rw [phase]
          simp
      · exact balanced
  | settingUp attempt => exact balanced.continueSetup interface duration phase time
  | refused => exact balanced
  | polling pollers =>
      have balance := balanced.balance
      rw [phase] at balance
      have steady : Steady s := ⟨balanced.neverUnloaded, balanced.refusalsLogged, balance⟩
      have polled := steady.pollAll interface duration time pollers
      exact {
        neverUnloaded := polled.neverUnloaded
        refusalsLogged := polled.refusalsLogged
        balance := polled.balance
        unregistered := fun notPolling => absurd rfl (notPolling _)
        planned := by
          intro attempt impossible
          cases impossible }

theorem Balanced.seconds {s : Supervisor Handle (World × List Return)} (balanced : Balanced s)
    (count : Nat) : Balanced (s.seconds interface.recorded duration count) := by
  induction count generalizing s with
  | zero => exact balanced
  | succ count ih =>
      have next := balanced.second interface duration s.upcoming
      exact ih { next with }

theorem Balanced.advance {s : Supervisor Handle (World × List Return)} (balanced : Balanced s)
    (time : Nat) : Balanced (s.advance interface.recorded duration time) := by
  have later : Balanced { s with elapsed := s.elapsed + time } := { balanced with }
  exact later.seconds interface duration _

end Steps

/-! ### Whole runs -/

theorem Balanced.of_watched (interface : Api Handle World) (duration : Call → World → Nat)
    (api : Handle) (entry : Entry) (world : World) (stretches : List Nat) :
    Balanced (Supervisor.watched interface duration api entry world stretches) := by
  have kept (s : Supervisor Handle (World × List Return)) (balanced : Balanced s) :
      Balanced (stretches.foldl
        (fun s time =>
          s.advance interface.recorded (fun what state => duration what state.1) time) s) := by
    induction stretches generalizing s with
    | nil => exact balanced
    | cons time rest ih => exact ih _ (balanced.advance interface _ time)
  refine kept _ (Balanced.of_resting (.inl ⟨0, rfl⟩) ?_ rfl rfl)
  intro answered impossible
  cases impossible

/-- A shutdown unloads the entry if it is registered, and makes no other call. -/
theorem shutdown_history (interface : Api Handle World)
    (s : Supervisor Handle (World × List Return)) :
    (s.registered = false ∧ (s.shutdown interface.recorded).world.2 = s.world.2) ∨
      (s.registered = true ∧ ∃ succeeded,
        (s.shutdown interface.recorded).world.2 = s.world.2 ++ [⟨.unload, succeeded⟩]) := by
  unfold Supervisor.registered Supervisor.shutdown Registry.unload
  dsimp only
  cases found : s.registry.get? s.entry.uniqueId with
  | none => exact .inl ⟨rfl, rfl⟩
  | some runtime => exact .inr ⟨rfl, _, rfl⟩

/-- The sessions of a supervisor are contained exactly when each attempt that failed had its login
refused, and none that has logged in is cut off by the shutdown. This is so whatever the NAS
answers, however long it takes, and whenever the shutdown comes. -/
theorem sessions_contained_iff (interface : Api Handle World) (duration : Call → World → Nat)
    (api : Handle) (entry : Entry) (world : World) (stretches : List Nat) :
    let s := Supervisor.watched interface duration api entry world stretches
    Contained (s.shutdown interface.recorded).world.2 ↔
      failures s.log = refusals s.world.2 ∧ s.phase.loggedIn = false := by
  intro s
  have balanced : Balanced s := .of_watched interface duration api entry world stretches
  have balance := balanced.balance
  have refusalsLogged := balanced.refusalsLogged
  have nobody : s.phase.loggedIn = false ↔ s.phase.loggedIn.toNat = 0 := by
    cases s.phase.loggedIn <;> simp
  rw [nobody]
  rcases shutdown_history interface s with ⟨absent, history⟩ | ⟨registered, succeeded, history⟩
  · rw [history, contained_iff_of_open balanced.neverUnloaded]
    rw [absent, Bool.toNat_false] at balance
    omega
  · rw [history, contained_iff_of_unload succeeded balanced.neverUnloaded]
    rw [registered, Bool.toNat_true] at balance
    omega

/-- A NAS that lets the supervisor in and then does not tell its network addresses. -/
def Script.silent : Script :=
  { offered := []
    outcomes := fun what => if what = .networkMacs then [.connection (some "x")] else [] }

def Entry.bare : Entry :=
  { entryId := "nas", uniqueId := "nas", devices := []
    data := {
      host := "nas.local", port := 5001, useHttps := true, username := "admin"
      password := "secret", verifySsl := none, macs := [] } }

/-- The session of an attempt that fails after its login is left open by the shutdown. -/
theorem not_contained_after_failed_attempt :
    ¬ Contained ((Supervisor.watched Script.api (fun _ _ => 0) () Entry.bare Script.silent
      [1]).shutdown Script.api.recorded).world.2 := by
  intro contained
  have leftOpen := contained.noneLeft
  revert leftOpen
  decide

end PresenceGateway.Nas
