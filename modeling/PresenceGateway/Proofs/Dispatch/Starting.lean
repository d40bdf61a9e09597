import PresenceGateway.Proofs.Config.Loading
import PresenceGateway.Proofs.Dispatch.Run
/-!
Which configured limits a dispatcher starts with.

A configuration may ask for any positive number of waiting updates and of sink calls. A dispatcher
starts with them if and only if both can be managed: beyond that either there is no dispatcher at all,
or there is one whose worker is lost and which accepts nothing.
-/
namespace PresenceGateway.Dispatch

/-! ### What is asked of a dispatcher at its start -/

/-- That the worker waits for a job, and that whatever is submitted first is accepted and given to the
sink. Its call runs until the sink has an answer, and with that the dispatcher is as it was. -/
structure TakesFirst (queue : Queue) : Prop where
  waits : queue.worker = .working none
  accepts : ∀ job, (submit job queue).1 = .ok ()
  calls : ∀ {World : Type} (sink : Sink World) (world : World) (job : Job),
    sink.see job.update world = none →
    run sink (submit job queue).2.1 world = ({ queue with running := [job] }, world, .empty)
  delivers : ∀ {World : Type} (sink : Sink World) (world later : World) (job : Job)
    (answer : SinkAnswer), sink.see job.update world = some (answer, later) →
    run sink (submit job queue).2.1 world = (queue, later, outcomeTrail job answer)

/-- That a dispatcher can be made within some limits, and takes the first update. -/
def Starts (limits : Limits) : Prop :=
  ∃ queue, Queue.start? limits = some queue ∧ TakesFirst queue

namespace Queue

/-! ### The fresh dispatcher -/

theorem start?_eq_none_iff (limits : Limits) :
    start? limits = none ↔ limits.capacity = 0 ∨ Limits.mostPermits < limits.capacity := by
  unfold start?
  split
  · rename_i unmanageable
    exact iff_of_true rfl unmanageable
  · rename_i manageable
    exact iff_of_false (by simp) manageable

def fresh (limits : Limits) : Queue :=
  { limits, isOpen := true, waiting := [], worker := .working none, running := [] }

theorem start?_of_manageable {limits : Limits} (room : 0 < limits.capacity)
    (queueable : limits.capacity ≤ Limits.mostPermits)
    (startable : limits.inFlight ≤ Limits.mostPermits) :
    start? limits = some (fresh limits) := by
  have creatable : ¬ (limits.capacity = 0 ∨ Limits.mostPermits < limits.capacity) := by omega
  rw [start?, if_neg creatable, if_neg (Nat.not_lt.mpr startable), fresh]

theorem worker_of_start? {limits : Limits} {queue : Queue}
    (tooMany : Limits.mostPermits < limits.inFlight) (created : start? limits = some queue) :
    queue.worker = .lost := by
  unfold start? at created
  rw [if_pos tooMany] at created
  split at created
  · cases created
  · cases created
    rfl

/-- The worker takes the only job that waits, and starts it. -/
theorem work_one {limits : Limits} (parallel : 0 < limits.inFlight) (job : Job) :
    work { fresh limits with waiting := [job] } = { fresh limits with running := [job] } := by
  simp [work, workFor, begin?, take?, fresh, parallel]

end Queue

/-! ### The first update -/

section First

variable {World : Type} {limits : Limits} (room : 0 < limits.capacity) (job : Job)

include room in
theorem submit_fresh :
    submit job (Queue.fresh limits) = (.ok (), { Queue.fresh limits with waiting := [job] }, .empty) :=
  @submit_of_room (Queue.fresh limits) none rfl room job

variable (parallel : 0 < limits.inFlight) {sink : Sink World} {world : World}

include parallel

theorem run_unanswered (silent : sink.see job.update world = none) :
    run sink { Queue.fresh limits with waiting := [job] } world =
      ({ Queue.fresh limits with running := [job] }, world, .empty) := by
  change runFor sink 1 _ world = _
  rw [runFor, Queue.work_one parallel]
  dsimp only
  rw [firstAnswer, silent]
  rfl

theorem run_answered {answer : SinkAnswer} {later : World}
    (answered : sink.see job.update world = some (answer, later)) :
    run sink { Queue.fresh limits with waiting := [job] } world =
      (Queue.fresh limits, later, outcomeTrail job answer) := by
  have finished : Queue.finish? 0 { Queue.fresh limits with running := [job] } =
      some (job, Queue.fresh limits) := Queue.finish?_eq_some.mpr ⟨rfl, rfl⟩
  have idle : runFor sink 0 (Queue.fresh limits) later = (Queue.fresh limits, later, .empty) := rfl
  change runFor sink 1 _ world = _
  rw [runFor, Queue.work_one parallel]
  dsimp only
  rw [firstAnswer, answered]
  dsimp only
  rw [finished]
  dsimp only
  rw [idle]
  dsimp only
  rw [Trail.append_empty]

end First

theorem takesFirst_fresh {limits : Limits} (room : 0 < limits.capacity)
    (parallel : 0 < limits.inFlight) : TakesFirst (Queue.fresh limits) where
  waits := rfl
  accepts := by
    intro job
    rw [submit_fresh room]
  calls := by
    intro World sink world job silent
    rw [submit_fresh room]
    exact run_unanswered job parallel silent
  delivers := by
    intro World sink world later job answer answered
    rw [submit_fresh room]
    exact run_answered job parallel answered

/-! ### Configured limits -/

/-- With positive limits a dispatcher starts exactly when both can be managed. -/
theorem starts_iff {limits : Limits} (room : 0 < limits.capacity)
    (parallel : 0 < limits.inFlight) :
    Starts limits ↔
      limits.capacity ≤ Limits.mostPermits ∧ limits.inFlight ≤ Limits.mostPermits := by
  constructor
  · rintro ⟨queue, created, takesFirst⟩
    constructor
    · apply Nat.le_of_not_lt
      intro tooLarge
      rw [(Queue.start?_eq_none_iff limits).mpr (.inr tooLarge)] at created
      cases created
    · apply Nat.le_of_not_lt
      intro tooMany
      have lost := Queue.worker_of_start? tooMany created
      rw [takesFirst.waits] at lost
      cases lost
  · intro ⟨queueable, startable⟩
    exact ⟨_, Queue.start?_of_manageable room queueable startable, takesFirst_fresh room parallel⟩

theorem submit_of_lost {queue : Queue} (lost : queue.worker = .lost) (job : Job) :
    submit job queue = (.error .closed, queue, .empty) := by
  have refused : queue.submit job = .error .closed := by
    rw [Queue.submit, lost]
  rw [submit, refused]

/-- Under a configuration that is accepted, the dispatcher starts exactly when the configured numbers of
waiting updates and of sink calls can be managed. There is none at all for more waiting updates than
that. When it is the sink calls that are too many, there is one, and it refuses everything. -/
theorem dispatcher_starts_iff_manageable (environment : Environment) (config : Config)
    (loaded : Config.load environment = .ok config) :
    (Starts config.limits ↔ config.limits.capacity ≤ Limits.mostPermits ∧
      config.limits.inFlight ≤ Limits.mostPermits) ∧
    (Queue.start? config.limits = none ↔ Limits.mostPermits < config.limits.capacity) ∧
    (∀ queue, Queue.start? config.limits = some queue →
      Limits.mostPermits < config.limits.inFlight →
      ∀ job, submit job queue = (.error .closed, queue, .empty)) := by
  obtain ⟨room, parallel⟩ := Config.limits_pos loaded
  refine ⟨starts_iff room parallel, ?_, ?_⟩
  · rw [Queue.start?_eq_none_iff]
    exact or_iff_right (Nat.ne_of_gt room)
  · intro queue created tooMany job
    exact submit_of_lost (Queue.worker_of_start? tooMany created) job

def environmentWith (capacity inFlight : String) : Environment :=
  { values := [
      ("MERAKI_VALIDATOR", "v"), ("MERAKI_SECRET", "s"), ("PRESENCE_QUEUE_CAPACITY", capacity),
      ("PRESENCE_MAX_IN_FLIGHT", inFlight)] }

/-- The largest numbers that can be managed are accepted, and the dispatcher starts with them. -/
theorem dispatcher_starts_iff_manageable_at_most :
    ∃ config, Config.load (environmentWith "2305843009213693951" "2305843009213693951") = .ok config ∧
      Starts config.limits := by
  obtain ⟨config, loaded, capacity, inFlight⟩ :
      ∃ config, Config.load (environmentWith "2305843009213693951" "2305843009213693951") =
        .ok config ∧ config.limits.capacity = Limits.mostPermits ∧
        config.limits.inFlight = Limits.mostPermits := ⟨_, rfl, rfl, rfl⟩
  obtain ⟨starts, _⟩ := dispatcher_starts_iff_manageable _ config loaded
  exact ⟨config, loaded, starts.mpr ⟨Nat.le_of_eq capacity, Nat.le_of_eq inFlight⟩⟩

/-- One more is accepted for either limit, but then there is no dispatcher, or one without a worker. -/
theorem accepted_limits_without_dispatcher :
    (∃ config, Config.load (environmentWith "2305843009213693952" "16") = .ok config ∧
      Queue.start? config.limits = none) ∧
    ∃ config queue, Config.load (environmentWith "1024" "2305843009213693952") = .ok config ∧
      Queue.start? config.limits = some queue ∧ queue.worker = .lost ∧ ¬ Starts config.limits := by
  refine ⟨⟨_, rfl, rfl⟩, _, _, rfl, rfl, rfl, ?_⟩
  rintro ⟨queue, created, takesFirst⟩
  cases created
  cases takesFirst.waits

end PresenceGateway.Dispatch
