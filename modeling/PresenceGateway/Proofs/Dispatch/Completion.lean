import PresenceGateway.Proofs.Dispatch.Accounting
/-!
What becomes of accepted updates. Once all handles are dropped every action brings the dispatcher
closer to its end, and it can only come to a halt with every accepted update delivered.
-/
namespace PresenceGateway.Dispatch

/-! ### Coming to rest -/

/-- The end of a dispatcher: nothing waits or runs any more, and the sink calls that were started
and have ended are those of the accepted jobs, each once. -/
structure AtRest (system : System) : Prop where
  workerDrained : system.queue.worker = .drained
  nothingWaits : system.queue.waiting = []
  nothingRuns : system.queue.running = []
  allStarted : started system.history = accepted system.history
  allEnded : (ended system.history).Perm (accepted system.history)

namespace System

/-- How many actions are left once there is no handle: three for a job that waits, two for the one
in hand, one for a call that runs, and the end of the worker. -/
def due (system : System) : Nat :=
  3 * system.queue.waiting.length + system.queue.running.length +
    match system.queue.worker with
    | .working (some _) => 3
    | .working none => 1
    | _ => 0

/-- Without a handle there is no action but those of the worker and the sink, and each of them uses
up what is due. -/
theorem next?_due {system after : System} {action : Action} (dropped : system.handles = 0)
    (moved : system.next? action = some after) : after.handles = 0 ∧ after.due < system.due := by
  cases action with
  | submit job => simp only [next?, if_pos dropped, reduceCtorEq] at moved
  | clone => simp only [next?, if_pos dropped, reduceCtorEq] at moved
  | drop => simp only [next?, dropped, reduceCtorEq] at moved
  | take =>
      obtain ⟨queue, taken, rfl⟩ := Option.map_eq_some_iff.mp moved
      obtain ⟨job, rest, working, waiting, rfl⟩ := Queue.take?_eq_some.mp taken
      refine ⟨dropped, ?_⟩
      simp only [due, working, waiting, List.length_cons]
      omega
  | spawn =>
      unfold next? at moved
      dsimp only at moved
      split at moved
      · rename_i begun
        cases moved
        obtain ⟨job, working, _, rfl⟩ := Queue.begin?_eq_some.mp begun
        refine ⟨dropped, ?_⟩
        simp only [due, working, List.length_append, List.length_singleton]
        omega
      · cases moved
  | finish place result =>
      obtain ⟨⟨job, queue⟩, finished, rfl⟩ := Option.map_eq_some_iff.mp moved
      obtain ⟨found, rfl⟩ := Queue.finish?_eq_some.mp finished
      obtain ⟨within, _⟩ := List.getElem?_eq_some_iff.mp found
      refine ⟨dropped, ?_⟩
      simp only [due, List.length_eraseIdx_of_lt within]
      omega
  | drain =>
      obtain ⟨queue, drained, rfl⟩ := Option.map_eq_some_iff.mp moved
      obtain ⟨working, _, _, _, rfl⟩ := Queue.drain?_eq_some.mp drained
      refine ⟨dropped, ?_⟩
      simp only [due, working]
      omega

theorem run?_due {system after : System} {actions : List Action} (dropped : system.handles = 0)
    (ran : system.run? actions = some after) :
    after.handles = 0 ∧ actions.length + after.due ≤ system.due := by
  induction actions generalizing system with
  | nil =>
      obtain rfl := Option.some.inj ran
      exact ⟨dropped, Nat.le_of_eq (Nat.zero_add _)⟩
  | cons action rest ih =>
      obtain ⟨between, moved, ran⟩ := Option.bind_eq_some_iff.mp ran
      obtain ⟨stillDropped, closer⟩ := next?_due dropped moved
      obtain ⟨atEnd, bound⟩ := ih stillDropped ran
      refine ⟨atEnd, ?_⟩
      rw [List.length_cons]
      omega

end System

namespace Accounted

variable {limits : Limits} {system : System}

/-- Where nothing can be done any more and no handle is left, the dispatcher is at rest. -/
theorem atRest_of_stuck (accounted : Accounted limits system) (parallel : 1 ≤ limits.inFlight)
    (dropped : system.handles = 0) (stuck : ∀ action, system.next? action = none) :
    AtRest system := by
  have nothingRuns : system.queue.running = [] := by
    cases running : system.queue.running with
    | nil => rfl
    | cons job rest =>
        have impossible := stuck (.finish 0 (.ok ()))
        simp [System.next?, Queue.finish?, running] at impossible
  have free : system.queue.running.length < system.queue.limits.inFlight := by
    rw [nothingRuns, accounted.sameLimits]
    exact parallel
  obtain ⟨drained, nothingWaits⟩ :
      system.queue.worker = .drained ∧ system.queue.waiting = [] := by
    rcases accounted.workerLives with ⟨held, working⟩ | ⟨drained, _, nothingWaits⟩
    · exfalso
      cases held with
      | some job =>
          have impossible := stuck .spawn
          simp [System.next?, Queue.held, Queue.begin?, working, free] at impossible
      | none =>
          cases waiting : system.queue.waiting with
          | cons job rest =>
              have impossible := stuck .take
              simp [System.next?, Queue.take?, working, waiting] at impossible
          | nil =>
              have impossible := stuck .drain
              have closed := accounted.openWhileHeld.mpr dropped
              have idle : system.queue.running.length +
                  min system.queue.limits.inFlight Limits.mostAtOnce ≤
                    system.queue.limits.inFlight := by
                rw [nothingRuns, List.length_nil, Nat.zero_add]
                exact Nat.min_le_left _ _
              have drained := Queue.drain?_eq_some.mpr ⟨working, closed, waiting, idle, rfl⟩
              simp [System.next?, drained] at impossible
    · exact ⟨drained, nothingWaits⟩
  have allStarted : started system.history = accepted system.history := by
    rw [accounted.inOrder, Queue.held, drained, nothingWaits]
    exact (List.append_nil _).symm
  have calls := accounted.calls
  rw [nothingRuns, List.append_nil, allStarted] at calls
  exact {
    workerDrained := drained
    nothingWaits
    nothingRuns
    allStarted
    allEnded := calls }

end Accounted

/-! ### The promise to those who submit -/

/-- What the dispatcher promises in a state of a run. -/
structure Delivers (limits : Limits) (system : System) : Prop where
  /-- Accepted jobs are started in the order of acceptance; the next one is in hand, the others
  wait. -/
  inOrder : accepted system.history =
    started system.history ++ (system.queue.held.toList ++ system.queue.waiting)
  /-- Every started call runs or has ended, and none was started twice. -/
  calls : (ended system.history ++ system.queue.running).Perm (started system.history)
  /-- What was never accepted is never started. -/
  onlyAccepted : ∀ job, job ∉ accepted system.history → job ∉ started system.history
  runningBound : system.queue.running.length ≤ limits.inFlight
  unfinishedBound : (accepted system.history).length ≤
    (ended system.history).length + (limits.capacity + 1 + limits.inFlight)
  /-- Through a handle a job is accepted while there is room, is refused as one too many only when
  the queue holds as many as it can, and is never told that the dispatcher is gone. -/
  answers : system.handles ≠ 0 → ∀ job,
    (submit job system.queue).1 =
      if system.queue.waiting.length = limits.capacity then .error .full else .ok ()
  /-- A refusal leaves the queue, the worker and the calls as they were. -/
  refusals : ∀ job refusal, (submit job system.queue).1 = .error refusal →
    (submit job system.queue).2.1 = system.queue
  /-- Once all handles are dropped only finitely many actions are left, whatever they are, and when
  none is possible everything accepted has been through the sink once. -/
  comesToRest : system.handles = 0 → ∀ actions after, system.run? actions = some after →
    actions.length ≤ system.due ∧ ((∀ action, after.next? action = none) → AtRest after)

namespace Accounted

variable {limits : Limits} {system : System}

theorem unfinishedBound (accounted : Accounted limits system) :
    (accepted system.history).length ≤
      (ended system.history).length + (limits.capacity + 1 + limits.inFlight) := by
  have accepted_length := congrArg List.length accounted.inOrder
  have started_length := accounted.calls.length_eq
  have waitingBound := accounted.waitingBound
  have runningBound := accounted.runningBound
  have inHand : system.queue.held.toList.length ≤ 1 := by
    cases system.queue.held <;> simp
  simp only [List.length_append] at accepted_length started_length
  omega

theorem answers (accounted : Accounted limits system) (shared : system.handles ≠ 0) (job : Job) :
    (Dispatch.submit job system.queue).1 =
      if system.queue.waiting.length = limits.capacity then .error .full else .ok () := by
  obtain ⟨held, working⟩ := accounted.working shared
  have waitingBound := accounted.waitingBound
  have sameLimits := congrArg Limits.capacity accounted.sameLimits
  by_cases room : system.queue.waiting.length < system.queue.limits.capacity
  · rw [submit_of_room working room, if_neg (by omega)]
  · rw [submit_of_no_room working room, if_pos (by omega)]

end Accounted

theorem submit_refused {job : Job} {queue : Queue} {refusal : Refusal}
    (refused : (submit job queue).1 = .error refusal) : (submit job queue).2.1 = queue := by
  unfold submit at refused ⊢
  cases submitted : queue.submit job with
  | ok next =>
      rw [submitted] at refused
      cases refused
  | error cause => cases cause <;> rfl

/-- Nothing is lost or delivered twice: with any limits that the runtime can manage a dispatcher can
be created, and it keeps its promise after every sequence of submissions, worker steps, ends of
sink calls with any results, and handles made and dropped. -/
theorem every_run_delivers (limits : Limits) (room : 1 ≤ limits.capacity)
    (queueable : limits.capacity ≤ Limits.mostPermits) (parallel : 1 ≤ limits.inFlight)
    (startable : limits.inFlight ≤ Limits.mostPermits) :
    ∃ first, System.start? limits = some first ∧
      ∀ actions system, first.run? actions = some system → Delivers limits system := by
  have creatable : ¬ (limits.capacity = 0 ∨ Limits.mostPermits < limits.capacity) := by omega
  obtain ⟨first, created⟩ : ∃ first, System.start? limits = some first := by
    unfold System.start? Queue.start?
    rw [if_neg creatable]
    exact ⟨_, rfl⟩
  refine ⟨first, created, fun actions system ran => ?_⟩
  have accounted := (Accounted.of_start startable created).run ran
  exact {
    inOrder := accounted.inOrder
    calls := accounted.calls
    onlyAccepted := by
      intro job never begun
      rw [accounted.inOrder] at never
      exact never (List.mem_append_left _ begun)
    runningBound := accounted.runningBound
    unfinishedBound := accounted.unfinishedBound
    answers := accounted.answers
    refusals := fun job refusal => submit_refused
    comesToRest := by
      intro dropped further after ranOn
      obtain ⟨stillDropped, bound⟩ := System.run?_due dropped ranOn
      refine ⟨by omega, fun stuck => ?_⟩
      exact (accounted.run ranOn).atRest_of_stuck parallel stillDropped stuck }

private def rush : List Action :=
  [.submit (Job.bare "a"), .take, .submit (Job.bare "b"), .submit (Job.bare "c"), .spawn, .take, .drop,
    .finish 0 (.error (.unavailable "down")), .spawn, .finish 0 (.ok ()), .drain]

/-- With room for one and one call at a time, the third of the submissions is refused and the other
two go through the sink, whose first answer is a failure. -/
theorem every_run_delivers_one_at_a_time :
    ∃ first system, System.start? ⟨1, 1⟩ = some first ∧ first.run? rush = some system ∧
      Delivers ⟨1, 1⟩ system ∧ ended system.history = [Job.bare "a", Job.bare "b"] := by
  obtain ⟨first, created, delivers⟩ :=
    every_run_delivers ⟨1, 1⟩ (by decide) (by decide) (by decide) (by decide)
  have through : (System.start? ⟨1, 1⟩).map
      (fun first => (first.run? rush).map fun system => ended system.history) =
      some (some [Job.bare "a", Job.bare "b"]) := rfl
  rw [created, Option.map_some, Option.some.injEq] at through
  obtain ⟨system, ran, through⟩ := Option.map_eq_some_iff.mp through
  exact ⟨first, system, created, ran, delivers rush system ran, through⟩

end PresenceGateway.Dispatch
