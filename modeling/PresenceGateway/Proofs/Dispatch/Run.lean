import PresenceGateway.Dispatch.Delivery
/-!
The dispatcher with those who use it: the handles through which updates are submitted, the steps of
the worker, and the sink calls that end when they will. A run is any sequence of these actions in
any order. The queue only changes through its own operations; beside it stands the history of what
was answered, started and ended.
-/
namespace PresenceGateway.Dispatch

def Queue.held (queue : Queue) : Option Job :=
  match queue.worker with
  | .working held => held
  | _ => none

/-! ### What each operation of the queue does -/

namespace Queue

/-- While the worker lives, a submission is refused for want of room only, and then nothing
changes. -/
theorem submit_of_working {queue : Queue} {held : Option Job}
    (working : queue.worker = .working held)
    (job : Job) :
    queue.submit job =
      if queue.waiting.length < queue.limits.capacity then
        .ok { queue with waiting := queue.waiting ++ [job] }
      else .error .full := by
  simp only [submit, working]

theorem take?_eq_some {queue next : Queue} :
    queue.take? = some next ↔ ∃ job rest,
      queue.worker = .working none ∧ queue.waiting = job :: rest ∧
      next = { queue with worker := .working (some job), waiting := rest } := by
  constructor
  · intro taken
    unfold take? at taken
    split at taken
    · rename_i job rest working waiting
      exact ⟨job, rest, working, waiting, (Option.some.inj taken).symm⟩
    · cases taken
  · rintro ⟨job, rest, working, waiting, rfl⟩
    simp only [take?, working, waiting]

theorem begin?_eq_some {queue next : Queue} :
    queue.begin? = some next ↔ ∃ job, queue.worker = .working (some job) ∧
      queue.running.length < queue.limits.inFlight ∧
      next = { queue with worker := .working none, running := queue.running ++ [job] } := by
  constructor
  · intro begun
    unfold begin? at begun
    split at begun
    · rename_i job working
      split at begun
      · rename_i free
        exact ⟨job, working, free, (Option.some.inj begun).symm⟩
      · cases begun
    · cases begun
  · rintro ⟨job, working, free, rfl⟩
    simp only [begin?, working, if_pos free]

theorem finish?_eq_some {queue next : Queue} {place : Nat} {job : Job} :
    queue.finish? place = some (job, next) ↔ queue.running[place]? = some job ∧
      next = { queue with running := queue.running.eraseIdx place } := by
  unfold finish?
  cases found : queue.running[place]? with
  | none => simp only [reduceCtorEq, false_and]
  | some other =>
      simp only [Option.some.injEq, Prod.mk.injEq]
      exact and_congr Iff.rfl eq_comm

theorem drain?_eq_some {queue next : Queue} :
    queue.drain? = some next ↔ queue.worker = .working none ∧ queue.isOpen = false ∧
      queue.waiting = [] ∧
      queue.running.length + min queue.limits.inFlight Limits.mostAtOnce ≤ queue.limits.inFlight ∧
      next = { queue with worker := .drained } := by
  constructor
  · intro drained
    unfold drain? at drained
    split at drained
    · rename_i working
      dsimp only at drained
      split at drained
      · rename_i due
        simp only [Bool.and_eq_true, Bool.not_eq_true', List.isEmpty_iff, decide_eq_true_eq] at due
        exact ⟨working, due.1.1, due.1.2, due.2, (Option.some.inj drained).symm⟩
      · cases drained
    · cases drained
  · rintro ⟨working, closed, waiting, free, rfl⟩
    simp [drain?, working, closed, waiting, free]

end Queue

theorem submit_of_room {queue : Queue} {held : Option Job} (working : queue.worker = .working held)
    (room : queue.waiting.length < queue.limits.capacity) (job : Job) :
    submit job queue = (.ok (), { queue with waiting := queue.waiting ++ [job] }, .empty) := by
  simp only [submit, Queue.submit_of_working working, if_pos room]

theorem submit_of_no_room {queue : Queue} {held : Option Job}
    (working : queue.worker = .working held)
    (fullUp : ¬ queue.waiting.length < queue.limits.capacity) (job : Job) :
    submit job queue = (.error .full, queue, droppedTrail job) := by
  simp only [submit, Queue.submit_of_working working, if_neg fullUp]

def Job.bare (name : String) : Job :=
  { traceId := name
    update := {
      mac := "", devId := name, hostName := "", sourceType := .router, gps := none
      gpsAccuracy := none, attributes := [] } }

/-! ### What happens at the two ends -/

inductive Happening where
  | answered (job : Job) (result : Except Refusal Unit)
  | started (job : Job)
  | ended (job : Job) (result : Except SinkError Unit)

def accepted (history : List Happening) : List Job :=
  history.filterMap fun
    | .answered job (.ok _) => some job
    | _ => none

def started (history : List Happening) : List Job :=
  history.filterMap fun
    | .started job => some job
    | _ => none

def ended (history : List Happening) : List Job :=
  history.filterMap fun
    | .ended job _ => some job
    | _ => none

@[simp] theorem accepted_append (first second : List Happening) :
    accepted (first ++ second) = accepted first ++ accepted second :=
  List.filterMap_append

/-! ### The system and its actions -/

structure System where
  queue : Queue
  handles : Nat
  history : List Happening

inductive Action where
  | submit (job : Job)
  | clone
  | drop
  | take
  | spawn
  | finish (place : Nat) (result : Except SinkError Unit)
  | drain

namespace System

def start? (limits : Limits) : Option System :=
  (Queue.start? limits).map fun queue => { queue, handles := 1, history := [] }

def next? (action : Action) (system : System) : Option System :=
  match action with
  | .submit job =>
    if system.handles = 0 then none
    else
      let (result, queue, _) := Dispatch.submit job system.queue
      some { system with queue, history := system.history ++ [.answered job result] }
  | .clone =>
    if system.handles = 0 then none else some { system with handles := system.handles + 1 }
  | .drop =>
    match system.handles with
    | 0 => none
    | 1 => some { system with handles := 0, queue := system.queue.close }
    | handles + 2 => some { system with handles := handles + 1 }
  | .take => system.queue.take?.map fun queue => { system with queue }
  | .spawn =>
    match system.queue.held, system.queue.begin? with
    | some job, some queue =>
      some { system with queue, history := system.history ++ [.started job] }
    | _, _ => none
  | .finish place result =>
    (system.queue.finish? place).map fun (job, queue) =>
      { system with queue, history := system.history ++ [.ended job result] }
  | .drain => system.queue.drain?.map fun queue => { system with queue }

def run? : List Action → System → Option System
  | [], system => some system
  | action :: rest, system => (system.next? action).bind (run? rest)

theorem run?_append (first second : List Action) (system : System) :
    system.run? (first ++ second) = (system.run? first).bind (run? second) := by
  induction first generalizing system with
  | nil => rfl
  | cons action rest ih =>
      rw [List.cons_append, run?, run?, Option.bind_assoc]
      exact congrArg _ (funext fun next => ih next)

/-- What the dispatcher and its users can come to, from its creation. -/
def Reachable (limits : Limits) (system : System) : Prop :=
  ∃ first actions, start? limits = some first ∧ first.run? actions = some system

/-! ### What an action adds to the history -/

theorem next?_submit_eq_some {system after : System} {job : Job} :
    system.next? (.submit job) = some after ↔ system.handles ≠ 0 ∧
      after = { system with
        queue := (Dispatch.submit job system.queue).2.1
        history := system.history ++ [.answered job (Dispatch.submit job system.queue).1] } := by
  by_cases dropped : system.handles = 0
  · simp [next?, dropped]
  · simp only [next?, if_neg dropped, Option.some.injEq]
    exact ⟨fun same => ⟨dropped, same.symm⟩, fun ⟨_, same⟩ => same.symm⟩

theorem history_of_finish {system after : System} {place : Nat} {job : Job}
    {result : Except SinkError Unit} (running : system.queue.running[place]? = some job)
    (moved : system.next? (.finish place result) = some after) :
    after.history = system.history ++ [.ended job result] := by
  obtain ⟨⟨other, queue⟩, finished, rfl⟩ := Option.map_eq_some_iff.mp moved
  obtain ⟨found, _⟩ := Queue.finish?_eq_some.mp finished
  obtain rfl := Option.some.inj (running.symm.trans found)
  rfl

/-- The worker and those who hold handles add nothing but started calls. -/
theorem history_of_own {system after : System} {action : Action}
    (offers : ∀ job, action ≠ .submit job) (ends : ∀ place result, action ≠ .finish place result)
    (moved : system.next? action = some after) :
    after.history = system.history ∨
      ∃ job, after.history = system.history ++ [.started job] := by
  cases action with
  | submit job => exact absurd rfl (offers job)
  | clone =>
      unfold next? at moved
      dsimp only at moved
      split at moved
      · cases moved
      · cases moved
        exact .inl rfl
  | drop =>
      unfold next? at moved
      dsimp only at moved
      split at moved <;> cases moved <;> exact .inl rfl
  | take =>
      obtain ⟨queue, _, rfl⟩ := Option.map_eq_some_iff.mp moved
      exact .inl rfl
  | spawn =>
      unfold next? at moved
      dsimp only at moved
      split at moved
      · rename_i job queue _ _
        cases moved
        exact .inr ⟨job, rfl⟩
      · cases moved
  | finish place result => exact absurd rfl (ends place result)
  | drain =>
      obtain ⟨queue, _, rfl⟩ := Option.map_eq_some_iff.mp moved
      exact .inl rfl

/-! ### The dispatcher's own way to run -/

/-- What the worker does until it has to wait is a sequence of its single steps. -/
theorem workFor_is_run (rounds : Nat) (system : System) :
    ∃ actions after, system.run? actions = some after ∧
      after.queue = Queue.workFor rounds system.queue := by
  induction rounds generalizing system with
  | zero => exact ⟨[], system, rfl, rfl⟩
  | succ rounds ih =>
      unfold Queue.workFor
      cases begun : system.queue.begin? with
      | some next =>
          obtain ⟨job, working, _, _⟩ := Queue.begin?_eq_some.mp begun
          have inHand : system.queue.held = some job := by rw [Queue.held, working]
          obtain ⟨actions, after, ran, same⟩ := ih
            { system with queue := next, history := system.history ++ [.started job] }
          refine ⟨.spawn :: actions, after, ?_, same⟩
          simp only [run?, next?, inHand, begun, Option.bind_some, ran]
      | none =>
          cases taken : system.queue.take? with
          | some next =>
              obtain ⟨actions, after, ran, same⟩ := ih { system with queue := next }
              refine ⟨.take :: actions, after, ?_, same⟩
              simp only [run?, next?, taken, Option.map_some, Option.bind_some, ran]
          | none => exact ⟨[], system, rfl, rfl⟩

/-- The worker's last step is one of the system's, if it is due. -/
theorem drain_is_run (system : System) :
    ∃ actions after, system.run? actions = some after ∧
      after.queue = (Dispatch.drain system.queue).1 := by
  unfold Dispatch.drain
  cases drained : system.queue.drain? with
  | none => exact ⟨[], system, rfl, rfl⟩
  | some next =>
      refine ⟨[.drain], { system with queue := next }, ?_, rfl⟩
      simp only [run?, next?, drained, Option.map_some, Option.bind_some]

/-- Running until idle against any sink is a run of the system. -/
theorem runFor_is_run {World : Type} (sink : Sink World) (calls : Nat) (system : System)
    (world : World) :
    ∃ actions after, system.run? actions = some after ∧
      after.queue = (runFor sink calls system.queue world).1 := by
  induction calls generalizing system world with
  | zero =>
      obtain ⟨working, between, worked, atWork⟩ :=
        workFor_is_run (2 * system.queue.waiting.length + 1) system
      obtain ⟨draining, after, drained, same⟩ := drain_is_run between
      refine ⟨working ++ draining, after, ?_, ?_⟩
      · rw [run?_append, worked, Option.bind_some, drained]
      · rw [same, atWork]
        rfl
  | succ calls ih =>
      obtain ⟨working, between, worked, atWork⟩ :=
        workFor_is_run (2 * system.queue.waiting.length + 1) system
      unfold runFor
      rw [Queue.work, ← atWork]
      dsimp only
      cases answered : firstAnswer sink world 0 between.queue.running with
      | none =>
          obtain ⟨draining, after, drained, same⟩ := drain_is_run between
          refine ⟨working ++ draining, after, ?_, same⟩
          rw [run?_append, worked, Option.bind_some, drained]
      | some found =>
          obtain ⟨place, answer, later⟩ := found
          dsimp only
          cases finished : between.queue.finish? place with
          | none => exact ⟨working, between, worked, rfl⟩
          | some rest =>
              obtain ⟨job, next⟩ := rest
              obtain ⟨actions, after, ran, same⟩ := ih
                { between with
                  queue := next, history := between.history ++ [.ended job answer.result] } later
              refine ⟨working ++ .finish place answer.result :: actions, after, ?_, same⟩
              rw [run?_append, worked, Option.bind_some, run?, next?, finished, Option.map_some,
                Option.bind_some, ran]

end System

end PresenceGateway.Dispatch
