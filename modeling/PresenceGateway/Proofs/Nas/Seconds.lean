import Mathlib.Algebra.GroupWithZero.Nat
import PresenceGateway.Nas.Supervisor
import PresenceGateway.Proofs.Nas.Plan
/-!
The supervisor from second to second. What it does in one of them leaves its clock alone, so that a
stretch of time can be cut anywhere. When calls take no time, a setup begins and ends in one second, and
so does a refresh.
-/
namespace PresenceGateway.Nas

variable {Handle World Result : Type}

def instant : Call → World → Nat :=
  fun _ _ => 0

namespace Supervisor

/-! ### One second -/

section Second

variable {interface : Api Handle World} {duration : Call → World → Nat} {time : Nat}
  {s : Supervisor Handle World}

theorem second_of_waiting {next : Nat} (phase : s.phase = .waiting next) :
    s.second interface duration time =
      if next = time then s.beginSetup interface duration time else s := by
  rw [second, phase]

theorem second_of_settingUp {attempt : Attempt Handle} (phase : s.phase = .settingUp attempt) :
    s.second interface duration time = s.continueSetup interface duration time attempt := by
  rw [second, phase]

theorem second_of_refused (phase : s.phase = .refused) :
    s.second interface duration time = s := by
  rw [second, phase]

end Second

/-! ### The clock -/

/-- What happens within a second leaves the clock as it is. -/
structure SameClock (s after : Supervisor Handle World) : Prop where
  elapsed : after.elapsed = s.elapsed
  upcoming : after.upcoming = s.upcoming

section Clock

variable (interface : Api Handle World) (duration : Call → World → Nat) (time : Nat)
  {s : Supervisor Handle World}

theorem SameClock.trans {after later : Supervisor Handle World} (one : SameClock s after)
    (other : SameClock after later) : SameClock s later :=
  ⟨other.elapsed.trans one.elapsed, other.upcoming.trans one.upcoming⟩

theorem sameClock_endSetup (result : SetupResult Handle) : SameClock s (s.endSetup time result) := by
  obtain ⟨entry, ending⟩ := result
  cases ending with
  | ok runtime => exact ⟨rfl, rfl⟩
  | error cause => cases cause <;> exact ⟨rfl, rfl⟩

theorem sameClock_proceed (program : Program Handle (SetupResult Handle)) :
    SameClock s (s.proceed interface duration time program) := by
  induction program generalizing s with
  | done result => exact sameClock_endSetup time result
  | call api what next ih =>
      rw [proceed]
      dsimp only
      split
      · have later := @ih (interface.call api what s.world).1 {
          s with calls := s.calls ++ [(time, what)], world := (interface.call api what s.world).2 }
        exact ⟨later.elapsed, later.upcoming⟩
      · exact ⟨rfl, rfl⟩
  | available api next ih => exact ih _

theorem sameClock_endRefresh (poller : Poller) :
    SameClock s (s.endRefresh time poller).2 := by
  unfold endRefresh
  split
  · split
    · exact ⟨rfl, rfl⟩
    · exact ⟨rfl, rfl⟩
  · exact ⟨rfl, rfl⟩

theorem sameClock_beginRefresh (poller : Poller) :
    SameClock s (s.beginRefresh interface duration time poller).2 := by
  unfold beginRefresh
  split
  · constructor
    · exact (sameClock_endRefresh time _).elapsed
    · exact (sameClock_endRefresh time _).upcoming
  · exact ⟨rfl, rfl⟩

theorem sameClock_poll (poller : Poller) : SameClock s (s.poll interface duration time poller).2 :=
  (sameClock_endRefresh time poller).trans (sameClock_beginRefresh interface duration time _)

theorem sameClock_pollAll (pollers : List Poller) :
    SameClock s (s.pollAll interface duration time pollers).2 := by
  induction pollers generalizing s with
  | nil => exact ⟨rfl, rfl⟩
  | cons poller rest ih => exact (sameClock_poll interface duration time poller).trans ih

theorem sameClock_second : SameClock s (s.second interface duration time) := by
  unfold second
  split
  · split
    · have begun := @sameClock_proceed _ _ interface duration time
        { s with log := s.log ++ s.entry.migrationLog } (setupEntry s.entry s.api)
      exact ⟨begun.elapsed, begun.upcoming⟩
    · exact ⟨rfl, rfl⟩
  · rename_i attempt _
    unfold continueSetup
    split
    · have later := @sameClock_proceed _ _ interface duration time
        { s with world := (interface.call attempt.api attempt.what s.world).2 }
        (attempt.next (interface.call attempt.api attempt.what s.world).1)
      exact ⟨later.elapsed, later.upcoming⟩
    · exact ⟨rfl, rfl⟩
  · exact ⟨rfl, rfl⟩
  · rename_i pollers _
    have polled := @sameClock_pollAll _ _ interface duration time s pollers
    exact ⟨polled.elapsed, polled.upcoming⟩

theorem seconds_add (first second : Nat) (s : Supervisor Handle World) :
    s.seconds interface duration (first + second) =
      (s.seconds interface duration first).seconds interface duration second := by
  induction first generalizing s with
  | zero => rw [Nat.zero_add, seconds]
  | succ first ih =>
      rw [Nat.succ_add, seconds, seconds]
      exact ih _

/-- A law that each second keeps holds after any number of them. -/
theorem seconds_keep {law : Supervisor Handle World → Prop}
    (step : ∀ s, law s → law { s.second interface duration s.upcoming with upcoming := s.upcoming + 1 })
    (count : Nat) (holds : law s) : law (s.seconds interface duration count) := by
  induction count generalizing s with
  | zero => exact holds
  | succ count ih =>
      rw [seconds, (sameClock_second interface duration s.upcoming).upcoming]
      exact ih (step s holds)

theorem seconds_clock (count : Nat) (s : Supervisor Handle World) :
    (s.seconds interface duration count).elapsed = s.elapsed ∧
      (s.seconds interface duration count).upcoming = s.upcoming + count := by
  induction count generalizing s with
  | zero => exact ⟨rfl, rfl⟩
  | succ count ih =>
      have same := @sameClock_second _ _ interface duration s.upcoming s
      obtain ⟨elapsed, upcoming⟩ := ih { s.second interface duration s.upcoming with
        upcoming := (s.second interface duration s.upcoming).upcoming + 1 }
      rw [seconds]
      refine ⟨elapsed.trans same.elapsed, upcoming.trans ?_⟩
      rw [same.upcoming, Nat.add_assoc, Nat.add_comm 1 count]

/-- A stretch of time from a second that is done, or from the start. -/
theorem advance_clock (time : Nat) (ready : s.upcoming ≤ s.elapsed + 1) :
    (s.advance interface duration time).elapsed = s.elapsed + time ∧
      (s.advance interface duration time).upcoming = s.elapsed + time + 1 := by
  obtain ⟨elapsed, upcoming⟩ := seconds_clock interface duration (s.elapsed + time + 1 - s.upcoming)
    { s with elapsed := s.elapsed + time }
  refine ⟨elapsed, upcoming.trans ?_⟩
  dsimp only
  omega

def along (stretches : List Nat) (s : Supervisor Handle World) : Supervisor Handle World :=
  stretches.foldl (fun s time => s.advance interface duration time) s

theorem along_clock (stretches : List Nat) (ready : s.upcoming = s.elapsed + 1) :
    (s.along interface duration stretches).elapsed = s.elapsed + stretches.sum ∧
      (s.along interface duration stretches).upcoming = s.elapsed + stretches.sum + 1 := by
  induction stretches generalizing s with
  | nil => exact ⟨rfl, ready⟩
  | cons time rest ih =>
      obtain ⟨elapsed, upcoming⟩ := @advance_clock _ _ interface duration s time (Nat.le_of_eq ready)
      rw [List.sum_cons, ← Nat.add_assoc, ← elapsed]
      exact ih (upcoming.trans (congrArg (· + 1) elapsed.symm))

/-- Nothing is called any more after a refusal or a shutdown. -/
theorem along_refused (stretches : List Nat) (refused : s.phase = .refused) :
    (s.along interface duration stretches).calls = s.calls := by
  have still (s : Supervisor Handle World) (refused : s.phase = .refused) (time : Nat) :
      (s.advance interface duration time).phase = .refused ∧
        (s.advance interface duration time).calls = s.calls := by
    refine @seconds_keep _ _ interface duration { s with elapsed := s.elapsed + time }
      (fun after => after.phase = .refused ∧ after.calls = s.calls) ?_ _ ⟨refused, rfl⟩
    intro after kept
    rw [second_of_refused kept.1]
    exact kept
  induction stretches generalizing s with
  | nil => rfl
  | cons time rest ih =>
      obtain ⟨phase, same⟩ := still s refused time
      exact (ih phase).trans same

end Clock

/-! ### Logins that fail -/

section Failures

variable {interface : Api Handle World} {duration : Call → World → Nat}
  {s : Supervisor Handle World} {cause : NasError}

def failedPhase (time : Nat) : SetupError → Phase Handle
  | .authFailed _ => .refused
  | .notReady _ => .waiting (time + retryDelay)

theorem endSetup_failed (time : Nat) (entry : Entry) (cause : SetupError) :
    (s.endSetup time (entry, .error cause)).phase = failedPhase time cause := by
  cases cause <;> rfl

/-- Nothing happens while a setup waits for a call to end. -/
theorem seconds_settingUp {attempt : Attempt Handle} (count : Nat)
    (phase : s.phase = .settingUp attempt) (early : s.upcoming + count ≤ attempt.ends) :
    s.seconds interface duration count = { s with upcoming := s.upcoming + count } := by
  induction count generalizing s with
  | zero => rfl
  | succ count ih =>
      have step : s.second interface duration s.upcoming = s := by
        rw [second_of_settingUp phase]
        exact if_neg (by omega)
      rw [seconds, step]
      refine (@ih { s with upcoming := s.upcoming + 1 } phase (by dsimp only; omega)).trans ?_
      dsimp only
      rw [Nat.add_assoc, Nat.add_comm 1 count]

/-- A setup that waits for a call goes on in the second in which the call ends. -/
theorem seconds_until_answer {attempt : Attempt Handle} (count : Nat)
    (phase : s.phase = .settingUp attempt) (wait : s.upcoming + count = attempt.ends) :
    (s.seconds interface duration (count + 1)).phase =
      (proceed interface duration attempt.ends
        (attempt.next (interface.call attempt.api attempt.what s.world).1)
        { s with
          upcoming := attempt.ends
          world := (interface.call attempt.api attempt.what s.world).2 }).phase := by
  let due : Supervisor Handle World := { s with upcoming := attempt.ends }
  have waiting : due.phase = .settingUp attempt := phase
  rw [seconds_add, seconds_settingUp count phase (Nat.le_of_eq wait), wait]
  change (due.second interface duration attempt.ends).phase = _
  rw [second_of_settingUp waiting, continueSetup, if_pos rfl]

/-- The supervisor once an attempt has had its login answered with a failure, however long that took. -/
theorem seconds_failed_login (due : s.phase = .waiting s.upcoming)
    (failed : (interface.call s.api .setup s.world).1 = .error cause) :
    (s.seconds interface duration (duration .setup s.world + 1)).phase =
      failedPhase (s.upcoming + duration .setup s.world) (.ofNasError cause) := by
  have begun : s.second interface duration s.upcoming =
      proceed interface duration s.upcoming
        (.call s.api .setup (Setup.answered s.entry.migrated s.api))
        { s with log := s.log ++ s.entry.migrationLog } := by
    rw [second_of_waiting due, if_pos rfl, beginSetup, setupEntry_eq]
  by_cases atOnce : duration .setup s.world = 0
  · rw [atOnce, Nat.add_zero]
    change (s.second interface duration s.upcoming).phase = _
    rw [begun, proceed]
    dsimp only
    rw [if_pos atOnce, failed]
    exact endSetup_failed _ _ _
  · let login : Attempt Handle := {
      api := s.api, what := .setup, ends := s.upcoming + duration .setup s.world
      next := Setup.answered s.entry.migrated s.api }
    have waits : s.seconds interface duration 1 = { s with
        log := s.log ++ s.entry.migrationLog
        calls := s.calls ++ [(s.upcoming, .setup)]
        phase := .settingUp login
        upcoming := s.upcoming + 1 } := by
      rw [seconds, begun, proceed]
      dsimp only
      rw [if_neg atOnce]
      rfl
    have cut : duration .setup s.world + 1 = 1 + (duration .setup s.world - 1 + 1) := by omega
    have wait : s.upcoming + 1 + (duration .setup s.world - 1) = login.ends := by
      dsimp only [login]
      omega
    rw [cut, seconds_add, waits, seconds_until_answer _ rfl wait]
    dsimp only [login]
    rw [failed]
    exact endSetup_failed _ _ _

end Failures

/-- A shutdown closes the session of an entry that is registered, and calls nothing else. -/
theorem shutdown_calls (interface : Api Handle World) (s : Supervisor Handle World) :
    (s.shutdown interface).calls = s.calls ++
      (s.registry.get? s.entry.uniqueId).toList.map fun _ => (s.elapsed, .unload) := by
  have calls : (s.shutdown interface).calls = s.calls ++
      ((s.registry.unload s.entry.uniqueId).calls interface s.world).map
        fun call => (s.elapsed, call.2) := rfl
  rw [calls]
  unfold Registry.unload
  cases s.registry.get? s.entry.uniqueId with
  | none => rfl
  | some runtime => rfl

variable (interface : Api Handle World)

/-! ### Setups -/

def ran (time : Nat) (program : Program Handle Result) (s : Supervisor Handle World) :
    Supervisor Handle World :=
  { s with
    calls := s.calls ++ (program.calls interface s.world).map fun call => (time, call.2)
    world := (program.run interface s.world).2 }

theorem proceed_instant (time : Nat) (program : Program Handle (SetupResult Handle))
    (s : Supervisor Handle World) :
    s.proceed interface instant time program =
      (s.ran interface time program).endSetup time (program.run interface s.world).1 := by
  induction program generalizing s with
  | done result =>
      rw [proceed, ran, Program.calls, List.map_nil, List.append_nil]
      rfl
  | call api what next ih =>
      rw [proceed]
      dsimp only
      rw [instant, if_pos rfl, ih, ran, ran, Program.calls, List.map_cons, List.append_assoc]
      rfl
  | available api next ih => exact ih _ s

/-! ### Refreshes -/

def refreshed (time : Nat) (domain : Domain) (s : Supervisor Handle World) :
    Supervisor Handle World :=
  let answer := interface.call s.api (.fetch domain) s.world
  { s with
    world := answer.2
    calls := s.calls ++ [(time, Call.fetch domain)] }.receive domain answer.1

def moved (time : Nat) (poller : Poller) : Poller :=
  if poller.next = time then { poller with next := time + poller.domain.period } else poller

theorem poll_instant (time : Nat) {poller : Poller} (idle : poller.running = none)
    (s : Supervisor Handle World) :
    s.poll interface instant time poller =
      (moved time poller,
        if poller.next = time then s.refreshed interface time poller.domain else s) := by
  obtain ⟨domain, next, running⟩ := poller
  cases idle
  have begins : poll interface instant time ⟨domain, next, none⟩ s =
      beginRefresh interface instant time ⟨domain, next, none⟩ s := rfl
  rw [begins]
  unfold beginRefresh moved
  dsimp only
  by_cases due : next = time
  · rw [if_pos due, if_pos due, if_pos due]
    unfold endRefresh instant
    dsimp only
    rw [Nat.add_zero, if_pos rfl, Nat.max_zero]
    rfl
  · rw [if_neg due, if_neg due, if_neg due]

theorem pollAll_instant (time : Nat) {pollers : List Poller}
    (idle : ∀ poller ∈ pollers, poller.running = none) (s : Supervisor Handle World) :
    s.pollAll interface instant time pollers =
      (pollers.map (moved time),
        ((pollers.filter fun poller => poller.next = time).map (·.domain)).foldl
          (fun s domain => s.refreshed interface time domain) s) := by
  induction pollers generalizing s with
  | nil => rfl
  | cons poller rest ih =>
      obtain ⟨here, later⟩ := List.forall_mem_cons.mp idle
      rw [pollAll, poll_instant interface time here]
      dsimp only
      rw [ih later]
      by_cases due : poller.next = time
      · rw [if_pos due, List.filter_cons_of_pos (by simpa using due)]
        rfl
      · rw [if_neg due, List.filter_cons_of_neg (by simpa using due)]
        rfl

end Supervisor

end PresenceGateway.Nas
