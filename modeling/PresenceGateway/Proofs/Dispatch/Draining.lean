import PresenceGateway.Proofs.Dispatch.Accounting
/-!
The state in which the worker returns. No handle is left then and nothing waits. The worker waits for
running calls by asking for all permits at once, but there is a most that it can ask for: as many
calls as there are permits beyond it can still be running.
-/
namespace PresenceGateway.Dispatch

namespace System

/-- The worker returns in this state: the end of the worker is the last action of a run to it. -/
def Returns (limits : Limits) (system : System) : Prop :=
  ∃ before, Reachable limits before ∧ before.next? .drain = some system

structure Idle (system : System) : Prop where
  dropped : system.handles = 0
  nothingWaits : system.queue.waiting = []
  nothingRuns : system.queue.running = []

variable {limits : Limits} {system after : System}

theorem Reachable.run (reachable : Reachable limits system) {actions : List Action}
    (ran : system.run? actions = some after) : Reachable limits after := by
  obtain ⟨first, earlier, created, came⟩ := reachable
  refine ⟨first, earlier ++ actions, created, ?_⟩
  rw [run?_append, came, Option.bind_some, ran]

/-! ### What is left when the worker returns -/

theorem Returns.bounded (startable : limits.inFlight ≤ Limits.mostPermits)
    (returned : Returns limits system) :
    system.handles = 0 ∧ system.queue.waiting = [] ∧
      system.queue.running.length ≤ limits.inFlight - Limits.mostAtOnce := by
  obtain ⟨before, reachable, moved⟩ := returned
  have accounted := Accounted.of_reachable startable reachable
  obtain ⟨queue, drained, rfl⟩ := Option.map_eq_some_iff.mp moved
  obtain ⟨_, closed, waiting, free, rfl⟩ := Queue.drain?_eq_some.mp drained
  rw [accounted.sameLimits] at free
  refine ⟨accounted.openWhileHeld.mp closed, waiting, ?_⟩
  dsimp only
  omega

/-! ### How much can be left -/

/-- One handle, nothing waiting, and a worker that waits for a job while some calls run. -/
def calling (limits : Limits) (jobs : List Job) (history : List Happening) : System :=
  { queue := {
      limits, isOpen := true, waiting := [], worker := .working none, running := jobs }
    handles := 1
    history }

theorem run?_calling {jobs : List Job} (room : 1 ≤ limits.capacity)
    (free : jobs.length < limits.inFlight) (history : List Happening) (job : Job) :
    (calling limits jobs history).run? [.submit job, .take, .spawn] =
      some (calling limits (jobs ++ [job]) (history ++ [.answered job (.ok ()), .started job])) := by
  have alive : (calling limits jobs history).queue.worker = .working none := rfl
  have submitted := submit_of_room alive room job
  simp only [calling] at submitted
  simp [run?, next?, calling, submitted, Queue.take?, Queue.held, Queue.begin?, free]

theorem reachable_calling (room : 1 ≤ limits.capacity)
    (queueable : limits.capacity ≤ Limits.mostPermits)
    (startable : limits.inFlight ≤ Limits.mostPermits) (job : Job) (count : Nat)
    (within : count ≤ limits.inFlight) :
    ∃ history, Reachable limits (calling limits (List.replicate count job) history) := by
  induction count with
  | zero =>
      have creatable : ¬ (limits.capacity = 0 ∨ Limits.mostPermits < limits.capacity) := by omega
      refine ⟨[], calling limits [] [], [], ?_, rfl⟩
      rw [start?, Queue.start?, if_neg creatable, if_neg (Nat.not_lt.mpr startable)]
      rfl
  | succ count ih =>
      obtain ⟨history, reachable⟩ := ih (Nat.le_of_succ_le within)
      have free : (List.replicate count job).length < limits.inFlight := by
        rw [List.length_replicate]
        exact within
      have more := reachable.run (run?_calling room free history job)
      rw [← List.replicate_succ'] at more
      exact ⟨_, more⟩

theorem returns_calling {jobs : List Job} {history : List Happening}
    (reachable : Reachable limits (calling limits jobs history))
    (spare : jobs.length + min limits.inFlight Limits.mostAtOnce ≤ limits.inFlight) :
    ∃ system, Returns limits system ∧ system.queue.running = jobs := by
  -- The worker finds the queue closed and empty, and the permits that it asks for are free.
  let closed := (calling limits jobs history).queue.close
  let before : System := { queue := closed, handles := 0, history }
  have dropped : (calling limits jobs history).run? [.drop] = some before := rfl
  have drained : closed.drain? = some { closed with worker := .drained } :=
    Queue.drain?_eq_some.mpr ⟨rfl, rfl, rfl, spare, rfl⟩
  have moved : before.next? .drain =
      some { before with queue := { closed with worker := .drained } } := by
    rw [next?, drained, Option.map_some]
  exact ⟨_, ⟨before, reachable.run dropped, moved⟩, rfl⟩

theorem returns_running_iff (room : 1 ≤ limits.capacity)
    (startable : limits.inFlight ≤ Limits.mostPermits) (count : Nat) :
    (∃ system, Returns limits system ∧ system.queue.running.length = count) ↔
      limits.capacity ≤ Limits.mostPermits ∧ count ≤ limits.inFlight - Limits.mostAtOnce := by
  constructor
  · rintro ⟨system, returned, rfl⟩
    refine ⟨?_, (returned.bounded startable).2.2⟩
    obtain ⟨_, ⟨first, _, created, _⟩, _⟩ := returned
    unfold start? Queue.start? at created
    split at created
    · cases created
    · omega
  · rintro ⟨queueable, spare⟩
    obtain ⟨history, reachable⟩ :=
      reachable_calling room queueable startable (.bare "a") count (by omega)
    obtain ⟨system, returned, running⟩ := returns_calling reachable (by
      rw [List.length_replicate]
      omega)
    refine ⟨system, returned, ?_⟩
    rw [running, List.length_replicate]

end System

/-- What is left when the worker returns, for every limits within which it can be started: no handle
and no waiting job ever, and running calls up to the number of permits beyond those that can be asked
for at once. So the worker always returns idle if and only if there are no such permits, or no
dispatcher at all. -/
theorem worker_returns_idle_iff (limits : Limits) (room : 1 ≤ limits.capacity)
    (startable : limits.inFlight ≤ Limits.mostPermits) :
    (∀ system, System.Returns limits system →
      system.handles = 0 ∧ system.queue.waiting = []) ∧
    (∀ count, (∃ system, System.Returns limits system ∧ system.queue.running.length = count) ↔
      limits.capacity ≤ Limits.mostPermits ∧ count ≤ limits.inFlight - Limits.mostAtOnce) ∧
    ((∀ system, System.Returns limits system → system.Idle) ↔
      limits.inFlight ≤ Limits.mostAtOnce ∨ Limits.mostPermits < limits.capacity) := by
  have leaves := System.returns_running_iff room startable
  refine ⟨fun system returned => ?_, leaves, ?_, ?_⟩
  · obtain ⟨dropped, waiting, _⟩ := returned.bounded startable
    exact ⟨dropped, waiting⟩
  · intro idle
    by_contra atFault
    obtain ⟨system, returned, running⟩ := (leaves 1).mpr (by omega)
    rw [(idle system returned).nothingRuns] at running
    cases running
  · intro harmless system returned
    obtain ⟨dropped, nothingWaits, _⟩ := returned.bounded startable
    have none_left := (leaves system.queue.running.length).mp ⟨system, returned, rfl⟩
    exact { dropped, nothingWaits, nothingRuns := List.length_eq_zero_iff.mp (by omega) }

/-- With one permit more than can be asked for at once, one call can be left running, and not two. -/
theorem worker_returns_idle_iff_one_more :
    (∃ system, System.Returns ⟨1, 0x100000000⟩ system ∧ system.queue.running.length = 1) ∧
      ¬ ∃ system, System.Returns ⟨1, 0x100000000⟩ system ∧ system.queue.running.length = 2 := by
  obtain ⟨_, leaves, _⟩ := worker_returns_idle_iff ⟨1, 0x100000000⟩ (by decide) (by decide)
  exact ⟨(leaves 1).mpr (by decide), fun two => absurd ((leaves 2).mp two) (by decide)⟩

/-- Not every return is idle: here the worker returns while the one call that it has started runs. -/
theorem returns_while_calling :
    ∃ system, System.Returns ⟨1, 0x100000000⟩ system ∧ ¬ system.Idle := by
  let actions : List Action := [.submit (Job.bare "a"), .take, .spawn, .drop]
  refine ⟨_, ⟨_, ⟨_, actions, rfl, rfl⟩, rfl⟩, fun idle => ?_⟩
  cases idle.nothingRuns

end PresenceGateway.Dispatch
