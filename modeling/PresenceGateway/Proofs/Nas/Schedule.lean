import PresenceGateway.Proofs.Nas.Refreshes
/-!
The schedule of a supervisor whose NAS answers at once. It makes an attempt each minute until one is not
answered with "not ready". After a refusal it does nothing more. After a success it refreshes each domain of
the runtime once in each of its periods, until it is shut down.
-/
namespace PresenceGateway.Nas

open Json (Value)

variable {Handle World : Type} (setting : Setting Handle World)

namespace Setting

def after (stretches : List Nat) : Supervisor Handle World :=
  .along setting.interface instant stretches (.start setting.api setting.entry setting.world)

/-! ### From second to second -/

/-- What some attempts have left behind, none of which has registered anything. -/
structure Left (n : Nat) (s : Supervisor Handle World) : Prop where
  api : s.api = setting.api
  entry : s.entry = (setting.before n).1
  world : s.world = (setting.before n).2
  calls : s.calls = setting.attempts n
  metrics : s.metrics = []

/-- Where a supervisor is at the end of a second. -/
inductive Stage (s : Supervisor Handle World) : Prop where
  | waiting {n : Nat} (before : setting.NotReadyBefore n) (left : setting.Left n s)
      (unregistered : s.registry = .empty) (phase : s.phase = .waiting (retryDelay * n))
      (ahead : s.upcoming ≤ retryDelay * n) (near : retryDelay * n < s.upcoming + retryDelay)
  | refused {n : Nat} {reason : String} (before : setting.NotReadyBefore n)
      (ended : setting.ending n = .error (.authFailed reason)) (left : setting.Left (n + 1) s)
      (unregistered : s.registry = .empty) (phase : s.phase = .refused)
      (past : retryDelay * n < s.upcoming)
  | polling {n elapsed : Nat} {runtime : Runtime Handle} {start : Supervisor Handle World}
      (before : setting.NotReadyBefore n) (ended : setting.ending n = .ok runtime)
      (left : setting.Left (n + 1) start)
      (polling : Supervisor.Polling setting.interface start runtime (retryDelay * n) elapsed s)
      (time : s.upcoming = retryDelay * n + elapsed + 1)

variable {setting} {s : Supervisor Handle World} {n : Nat}

/-- The supervisor when the calls of an attempt have been made and its end is still to be dealt with. -/
def called (setting : Setting Handle World) (n : Nat) (s : Supervisor Handle World) :
    Supervisor Handle World :=
  Supervisor.ran setting.interface (retryDelay * n)
    (setupEntry (setting.before n).1 setting.api) { s with log := s.log ++ s.entry.migrationLog }

theorem Left.beginSetup_eq (left : setting.Left n s) :
    s.beginSetup setting.interface instant (retryDelay * n) =
      (setting.called n s).endSetup (retryDelay * n)
        ((setting.before (n + 1)).1, setting.ending n) := by
  unfold Supervisor.beginSetup
  dsimp only
  rw [Supervisor.proceed_instant, left.entry, left.api]
  dsimp only
  rw [left.world]
  rw [called, left.entry, left.api, left.world]
  rfl

theorem Left.called (left : setting.Left n s) :
    setting.Left (n + 1) { setting.called n s with entry := (setting.before (n + 1)).1 } := by
  constructor
  · exact left.api
  · rfl
  · unfold Setting.called Supervisor.ran
    dsimp only
    rw [left.world]
    rfl
  · unfold Setting.called Supervisor.ran
    dsimp only
    rw [left.world, left.calls]
    exact congrArg (setting.attempts n ++ ·) rfl
  · exact left.metrics

theorem Left.of_notReady {reason : String} (left : setting.Left n s)
    (ended : setting.ending n = .error (.notReady reason)) :
    let after := s.beginSetup setting.interface instant (retryDelay * n)
    setting.Left (n + 1) after ∧ after.registry = s.registry ∧
      after.phase = .waiting (retryDelay * (n + 1)) := by
  intro after
  have ends : after = _ := left.beginSetup_eq
  rw [ended] at ends
  rw [ends]
  exact ⟨{ left.called with }, rfl, rfl⟩

theorem Left.of_authFailed {reason : String} (left : setting.Left n s)
    (ended : setting.ending n = .error (.authFailed reason)) :
    let after := s.beginSetup setting.interface instant (retryDelay * n)
    setting.Left (n + 1) after ∧ after.registry = s.registry ∧ after.phase = .refused := by
  intro after
  have ends : after = _ := left.beginSetup_eq
  rw [ended] at ends
  rw [ends]
  exact ⟨{ left.called with }, rfl, rfl⟩

theorem Left.of_ok {runtime : Runtime Handle} (left : setting.Left n s)
    (ended : setting.ending n = .ok runtime) :
    let after := s.beginSetup setting.interface instant (retryDelay * n)
    setting.Left (n + 1) after ∧
      Supervisor.Polling setting.interface after runtime (retryDelay * n) 0 after := by
  intro after
  have ends : after = _ := left.beginSetup_eq
  rw [ended] at ends
  have leftAfter : setting.Left (n + 1) after := by
    rw [ends]
    exact { left.called with }
  obtain ⟨_, holds⟩ := runtime_of_setup ended
  have first (domain : Domain) : pollerAt (retryDelay * n) 0 domain =
      { domain, next := retryDelay * n + domain.period, running := none } := by
    rw [pollerAt, Nat.zero_div, Nat.zero_add, Nat.mul_one]
  refine ⟨leftAfter, ?_, rfl, rfl, rfl, ?_, ?_, ?_⟩
  · rw [ends, ← Runtime.coordinators_domains holds, List.map_map]
    exact congrArg Phase.polling (List.map_congr_left fun coordinator _ => (first _).symm)
  · exact (List.append_nil _).symm
  · exact (List.append_nil _).symm
  · rw [ends]
    refine ⟨runtime, ?_, rfl, fun domain => Option.map_id'.symm⟩
    exact (Registry.get?_insert _ _ _ _).trans (if_pos rfl)

/-! ### Seconds -/

theorem NotReadyBefore.succ (before : setting.NotReadyBefore n) (here : setting.NotReady n) :
    setting.NotReadyBefore (n + 1) := by
  intro k less
  by_cases same : k = n
  · exact same ▸ here
  · exact before k (by omega)

/-- The second in which an attempt is due. -/
theorem Left.stage (left : setting.Left n s) (before : setting.NotReadyBefore n)
    (unregistered : s.registry = .empty) {upcoming : Nat} (due : retryDelay * n + 1 = upcoming) :
    setting.Stage { s.beginSetup setting.interface instant (retryDelay * n) with upcoming } := by
  cases ended : setting.ending n with
  | ok runtime =>
      obtain ⟨after, polling⟩ := left.of_ok ended
      exact .polling before ended after ⟨polling.phase, { polling.refreshed with }⟩ due.symm
  | error cause =>
      cases cause with
      | authFailed reason =>
          obtain ⟨after, same, phase⟩ := left.of_authFailed ended
          refine .refused before ended { after with } (same.trans unregistered) phase ?_
          dsimp only
          omega
      | notReady reason =>
          obtain ⟨after, same, phase⟩ := left.of_notReady ended
          have next : retryDelay * (n + 1) = retryDelay * n + retryDelay := Nat.mul_succ _ _
          refine .waiting (NotReadyBefore.succ before ⟨reason, ended⟩) { after with }
            (same.trans unregistered) phase ?_ ?_
          · dsimp only [retryDelay] at *
            omega
          · dsimp only [retryDelay] at *
            omega

theorem Stage.second (stage : setting.Stage s) :
    setting.Stage { s.second setting.interface instant s.upcoming with
      upcoming := s.upcoming + 1 } := by
  cases stage with
  | @waiting n before left unregistered phase ahead near =>
      rw [Supervisor.second_of_waiting phase]
      by_cases due : retryDelay * n = s.upcoming
      · have begun := left.stage before unregistered (congrArg (· + 1) due)
        rw [due] at begun
        rw [if_pos due]
        exact begun
      · rw [if_neg due]
        refine .waiting before { left with } unregistered phase ?_ ?_
        · dsimp only
          omega
        · dsimp only
          omega
  | refused before ended left unregistered phase past =>
      rw [Supervisor.second_of_refused phase]
      exact .refused before ended { left with } unregistered phase (Nat.lt_succ_of_lt past)
  | polling before ended left polling time =>
      have later := polling.second
      rw [← Nat.add_assoc, ← time] at later
      exact .polling before ended left ⟨later.phase, { later.refreshed with }⟩
        (congrArg (· + 1) time)

/-! ### Whole runs -/

theorem stage_start :
    setting.Stage (.start setting.api setting.entry setting.world : Supervisor Handle World) :=
  .waiting (fun k impossible => absurd impossible (Nat.not_lt_zero k)) ⟨rfl, rfl, rfl, rfl, rfl⟩ rfl rfl
    (Nat.le_refl 0) (show 0 < 60 by decide)

theorem Stage.advance (stage : setting.Stage s) (time : Nat) :
    setting.Stage (s.advance setting.interface instant time) := by
  have later : setting.Stage { s with elapsed := s.elapsed + time } := by
    cases stage with
    | waiting before left unregistered phase ahead near =>
        exact .waiting before { left with } unregistered phase ahead near
    | refused before ended left unregistered phase past =>
        exact .refused before ended { left with } unregistered phase past
    | polling before ended left polling time =>
        exact .polling before ended left ⟨polling.phase, { polling.refreshed with }⟩ time
  exact Supervisor.seconds_keep setting.interface instant (fun _ stage => stage.second) _ later

theorem stage_after (stretches : List Nat) : setting.Stage (setting.after stretches) := by
  have kept (s : Supervisor Handle World) (stage : setting.Stage s) :
      setting.Stage (s.along setting.interface instant stretches) := by
    induction stretches generalizing s with
    | nil => exact stage
    | cons time rest ih => exact ih _ (stage.advance time)
  exact kept _ stage_start

theorem clock_after (first : Nat) (rest : List Nat) :
    (setting.after (first :: rest)).elapsed = (first :: rest).sum ∧
      (setting.after (first :: rest)).upcoming = (first :: rest).sum + 1 := by
  obtain ⟨elapsed, upcoming⟩ := Supervisor.advance_clock setting.interface instant first
    (show (Supervisor.start setting.api setting.entry setting.world).upcoming ≤ 0 + 1 from
      Nat.zero_le _)
  have later := Supervisor.along_clock setting.interface instant rest
    (upcoming.trans (congrArg (· + 1) elapsed.symm))
  have start : (Supervisor.start setting.api setting.entry setting.world).elapsed + first = first :=
    Nat.zero_add first
  rw [elapsed, start] at later
  rw [List.sum_cons]
  exact later

/-! ### The schedule -/

variable (setting)

/-- A supervisor after some attempts, none of which has succeeded: it has called nothing else, and has
nothing to close. -/
structure Rests (n : Nat) (s : Supervisor Handle World) : Prop where
  calls : s.calls = setting.attempts n
  setups : timesOf .setup s.calls = (List.range n).map (retryDelay * ·)
  metrics : s.metrics = []
  unregistered : s.registry.get? setting.entry.uniqueId = none
  shutdown : ∀ later, ((s.shutdown setting.interface).along setting.interface instant later).calls =
    s.calls

def fetches (n : Nat) (runtime : Runtime Handle) (time : Nat) : List Fetch :=
  setting.interface.fetches setting.api (setting.before (n + 1)).2
    (refreshes runtime.domains (retryDelay * n) (time - retryDelay * n))

/-- A supervisor after an attempt that has succeeded: it refreshes each domain of the runtime once in
each period, counts how the refreshes end, and keeps what the last good fetch of each domain brought,
that of the setup included. -/
structure Polls (n : Nat) (runtime : Runtime Handle) (time : Nat) (s : Supervisor Handle World) :
    Prop where
  calls : s.calls = setting.attempts (n + 1) ++ (setting.fetches n runtime time).map (·.call)
  setups : timesOf .setup s.calls = (List.range (n + 1)).map (retryDelay * ·)
  refreshed : ∀ domain, timesOf (.fetch domain) s.calls =
    timesOf (.fetch domain) (setting.attempts (n + 1)) ++
      if domain ∈ runtime.domains then
        (List.range ((time - retryDelay * n) / domain.period)).map fun j =>
          retryDelay * n + domain.period * (j + 1)
      else []
  succeeded : ∀ domain, s.metrics.total (.refresh domain.text "ok") =
    Fetch.count domain true (setting.fetches n runtime time)
  failed : ∀ domain, s.metrics.total (.refresh domain.text "error") =
    Fetch.count domain false (setting.fetches n runtime time)
  counted : ∀ domain, s.metrics.total (.refresh domain.text "ok") +
      s.metrics.total (.refresh domain.text "error") =
    if domain ∈ runtime.domains then (time - retryDelay * n) / domain.period else 0
  data : ∀ domain, (s.registry.get? setting.entry.uniqueId).bind (·.coordinator? domain) =
    (runtime.coordinator? domain).map fun _ =>
      { domain
        data := (Fetch.last? domain (setting.fetches n runtime time)).or
          (fetched? domain (setting.answers n)) }
  shutdown : ∀ later, ((s.shutdown setting.interface).along setting.interface instant later).calls =
    s.calls ++ [(time, .unload)]

/-- What a supervisor has done at some time, by what its attempts end with. -/
structure KeepsSchedule (time : Nat) (s : Supervisor Handle World) : Prop where
  settled : setting.NotReadyBefore (time / retryDelay + 1) ∨
    ∃ n, setting.NotReadyBefore n ∧ retryDelay * n ≤ time ∧
      ((∃ reason, setting.ending n = .error (.authFailed reason)) ∨
        ∃ runtime, setting.ending n = .ok runtime)
  retries : setting.NotReadyBefore (time / retryDelay + 1) → setting.Rests (time / retryDelay + 1) s
  stops : ∀ n reason, setting.NotReadyBefore n → setting.ending n = .error (.authFailed reason) →
    retryDelay * n ≤ time → setting.Rests (n + 1) s
  polls : ∀ n runtime, setting.NotReadyBefore n → setting.ending n = .ok runtime →
    retryDelay * n ≤ time → setting.Polls n runtime time s

variable {setting}

theorem Left.rests (left : setting.Left n s) (unregistered : s.registry = .empty) :
    setting.Rests n s := by
  have absent (id : String) : s.registry.get? id = none := by
    rw [unregistered]
    rfl
  refine ⟨left.calls, ?_, left.metrics, absent _, fun later => ?_⟩
  · rw [left.calls, timesOf_setup_attempts]
  · rw [Supervisor.along_refused _ _ _ rfl, Supervisor.shutdown_calls, absent]
    exact List.append_nil _

theorem polls_of_polling {runtime : Runtime Handle} {start : Supervisor Handle World} {time : Nat}
    (ended : setting.ending n = .ok runtime) (left : setting.Left (n + 1) start)
    (polling : Supervisor.Polling setting.interface start runtime (retryDelay * n)
      (time - retryDelay * n) s) (clock : s.elapsed = time) :
    setting.Polls n runtime time s := by
  let done := refreshes runtime.domains (retryDelay * n) (time - retryDelay * n)
  have refreshed := polling.refreshed
  have fetched : setting.interface.fetches start.api start.world done =
      setting.fetches n runtime time := by
    rw [left.api, left.world]
    rfl
  have fetchCalls : (setting.fetches n runtime time).map (·.call) = done.map fetchCall :=
    Api.fetches_call _ _ _ _
  have calls : s.calls = setting.attempts (n + 1) ++ done.map fetchCall := by
    rw [refreshed.calls, left.calls]
  have metrics : s.metrics = (setting.fetches n runtime time).map (·.metric) := by
    rw [refreshed.metrics, left.metrics, fetched, List.nil_append]
  have times (domain : Domain) := timesOf_fetch_refreshes domain runtime.domains_nodup
    (retryDelay * n) (time - retryDelay * n)
  have id : s.entry.uniqueId = setting.entry.uniqueId := by
    rw [refreshed.entry, left.entry, before_uniqueId]
  obtain ⟨now, found, _, holds⟩ := refreshed.registered
  have fetchedFirst (domain : Domain) : runtime.coordinator? domain =
      (fetched? domain (setting.answers n)).map (Setup.holding domain) :=
    (runtime_of_setup ended).2 domain
  have succeeded (domain : Domain) : s.metrics.total (.refresh domain.text "ok") =
      Fetch.count domain true (setting.fetches n runtime time) := by
    rw [metrics]
    exact Fetch.total_metrics domain true _
  have failed (domain : Domain) : s.metrics.total (.refresh domain.text "error") =
      Fetch.count domain false (setting.fetches n runtime time) := by
    rw [metrics]
    exact Fetch.total_metrics domain false _
  refine ⟨?_, ?_, fun domain => ?_, succeeded, failed, fun domain => ?_, fun domain => ?_,
    fun later => ?_⟩
  · rw [calls, fetchCalls]
  · rw [calls, timesOf_append, timesOf_setup_refreshes, List.append_nil, timesOf_setup_attempts]
  · rw [calls, timesOf_append, times]
  · rw [succeeded, failed, Fetch.count_add_count, fetchCalls, times]
    split
    · rw [List.length_map, List.length_range]
    · rfl
  · rw [← id, found, Option.bind_some, holds, fetched, fetchedFirst]
    cases fetched? domain (setting.answers n) with
    | none => rfl
    | some data => exact congrArg some (Fetch.foldl_onto _ _)
  · rw [Supervisor.along_refused _ _ _ rfl, Supervisor.shutdown_calls, found, clock]
    rfl

theorem not_notReady_of_authFailed {reason : String}
    (ended : setting.ending n = .error (.authFailed reason)) : ¬ setting.NotReady n := by
  intro notReady
  obtain ⟨other, waits⟩ := notReady
  rw [ended] at waits
  cases waits

theorem not_notReady_of_ok {runtime : Runtime Handle} (ended : setting.ending n = .ok runtime) :
    ¬ setting.NotReady n := by
  intro notReady
  obtain ⟨other, waits⟩ := notReady
  rw [ended] at waits
  cases waits

/-- An attempt that is due and was not answered with "not ready" ends the waiting. -/
theorem not_notReadyBefore_of_settled {time : Nat} (settled : ¬ setting.NotReady n)
    (due : retryDelay * n ≤ time) : ¬ setting.NotReadyBefore (time / retryDelay + 1) := by
  intro before
  apply settled (before n _)
  dsimp only [retryDelay] at *
  omega

theorem Stage.keepsSchedule {time : Nat} (stage : setting.Stage s) (elapsed : s.elapsed = time)
    (upcoming : s.upcoming = time + 1) : setting.KeepsSchedule time s := by
  cases stage with
  | @waiting n before left unregistered phase ahead near =>
      have attempts : time / retryDelay + 1 = n := by
        dsimp only [retryDelay] at *
        omega
      rw [← attempts] at before left
      refine ⟨.inl before, fun _ => left.rests unregistered, ?_, ?_⟩
      · intro m reason _ ended due
        exact absurd before (not_notReadyBefore_of_settled (not_notReady_of_authFailed ended) due)
      · intro m runtime _ ended due
        exact absurd before (not_notReadyBefore_of_settled (not_notReady_of_ok ended) due)
  | @refused n reason before ended left unregistered phase past =>
      have due : retryDelay * n ≤ time := by omega
      have settled := not_notReady_of_authFailed ended
      refine ⟨.inr ⟨n, before, due, .inl ⟨reason, ended⟩⟩, ?_, ?_, ?_⟩
      · exact fun waits => absurd waits (not_notReadyBefore_of_settled settled due)
      · intro m other beforeToo endedToo _
        cases eq_of_settled setting before settled beforeToo (not_notReady_of_authFailed endedToo)
        exact left.rests unregistered
      · intro m runtime beforeToo endedToo _
        cases eq_of_settled setting before settled beforeToo (not_notReady_of_ok endedToo)
        rw [ended] at endedToo
        cases endedToo
  | @polling n since runtime start before ended left polling clock =>
      have due : retryDelay * n ≤ time := by omega
      have settled := not_notReady_of_ok ended
      refine ⟨.inr ⟨n, before, due, .inr ⟨runtime, ended⟩⟩, ?_, ?_, ?_⟩
      · exact fun waits => absurd waits (not_notReadyBefore_of_settled settled due)
      · intro m reason beforeToo endedToo _
        cases eq_of_settled setting before settled beforeToo (not_notReady_of_authFailed endedToo)
        rw [ended] at endedToo
        cases endedToo
      · intro m other beforeToo endedToo _
        cases eq_of_settled setting before settled beforeToo (not_notReady_of_ok endedToo)
        rw [ended] at endedToo
        cases endedToo
        have passed : since = time - retryDelay * n := by omega
        rw [passed] at polling
        exact polls_of_polling ended left polling elapsed

/-- The supervisor of a NAS that answers at once, whatever it answers, after any stretches of time: it
makes attempts each minute as long as they end with "not ready" and stops after a refusal. From the
first success on it refreshes each coordinator once in each of its periods, counts how the refreshes
end and keeps what the last good one brought. A shutdown closes the session exactly when there was a
success, and nothing is called after it. -/
theorem supervisor_keeps_schedule (setting : Setting Handle World) (first : Nat) (rest : List Nat) :
    setting.KeepsSchedule (first :: rest).sum (setting.after (first :: rest)) := by
  obtain ⟨elapsed, upcoming⟩ := @clock_after _ _ setting first rest
  exact (stage_after (first :: rest)).keepsSchedule elapsed upcoming

end Setting

end PresenceGateway.Nas
