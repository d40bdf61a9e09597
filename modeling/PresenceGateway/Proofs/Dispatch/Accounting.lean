import Mathlib.Data.List.Perm.Basic
import PresenceGateway.Proofs.Dispatch.Run
/-!
Where every accepted update is, in every state that the dispatcher can come to: with the sink, in
the worker's hand, or in the queue, and in that order. From this follow the bounds on what runs and
on what is unfinished, and that nothing is lost once all handles are dropped.
-/
namespace PresenceGateway.Dispatch

/-- The accepted jobs that have no outcome yet: those in a sink call, the one in hand and those that
wait. -/
def Queue.unfinished (queue : Queue) : List Job :=
  queue.running ++ (queue.held.toList ++ queue.waiting)

/-- The books of the dispatcher: every accepted job is accounted for once, in the order of
acceptance; every started call is running or has ended; and the limits are kept. -/
structure Accounted (limits : Limits) (system : System) : Prop where
  sameLimits : system.queue.limits = limits
  inOrder : accepted system.history =
    started system.history ++ (system.queue.held.toList ++ system.queue.waiting)
  calls : (ended system.history ++ system.queue.running).Perm (started system.history)
  runningBound : system.queue.running.length ≤ limits.inFlight
  waitingBound : system.queue.waiting.length ≤ limits.capacity
  openWhileHeld : system.queue.isOpen = false ↔ system.handles = 0
  workerLives : (∃ held, system.queue.worker = .working held) ∨
    (system.queue.worker = .drained ∧ system.handles = 0 ∧ system.queue.waiting = [])

namespace Accounted

variable {limits : Limits} {system : System}

/-! ### The books are right at the start -/

/-- A dispatcher that is created within what the runtime can manage starts with empty books. -/
theorem of_start (startable : limits.inFlight ≤ Limits.mostPermits)
    (created : System.start? limits = some system) : Accounted limits system := by
  unfold System.start? Queue.start? at created
  split at created
  · cases created
  · rw [Option.map_some, if_neg (Nat.not_lt.mpr startable)] at created
    obtain rfl := Option.some.inj created
    exact {
      sameLimits := rfl
      inOrder := rfl
      calls := List.Perm.nil
      runningBound := Nat.zero_le _
      waitingBound := Nat.zero_le _
      openWhileHeld := by simp
      workerLives := .inl ⟨none, rfl⟩ }

/-! ### Each action keeps the books right -/

theorem working (accounted : Accounted limits system) (shared : system.handles ≠ 0) :
    ∃ held, system.queue.worker = .working held := by
  rcases accounted.workerLives with living | ⟨_, dropped, _⟩
  · exact living
  · exact absurd dropped shared

/-- An accepted job joins the end of the books, a refused one leaves no trace in them. -/
theorem submit (accounted : Accounted limits system) (shared : system.handles ≠ 0) (job : Job) :
    Accounted limits { system with
      queue := (Dispatch.submit job system.queue).2.1
      history := system.history ++ [.answered job (Dispatch.submit job system.queue).1] } := by
  obtain ⟨held, working⟩ := accounted.working shared
  by_cases room : system.queue.waiting.length < system.queue.limits.capacity
  · rw [submit_of_room working room]
    have inOrder : accepted system.history ++ [job] = started system.history ++
        (system.queue.held.toList ++ (system.queue.waiting ++ [job])) := by
      rw [accounted.inOrder, List.append_assoc, List.append_assoc]
    exact { accounted with
      inOrder := by simpa [accepted, started, Queue.held] using inOrder
      calls := by simpa [ended, started] using accounted.calls
      waitingBound := by
        rw [← accounted.sameLimits, List.length_append]
        exact room
      workerLives := .inl ⟨held, working⟩ }
  · rw [submit_of_no_room working room]
    exact { accounted with
      inOrder := by simpa [accepted, started] using accounted.inOrder
      calls := by simpa [ended, started] using accounted.calls }

theorem share (accounted : Accounted limits system) (shared : system.handles ≠ 0) {count : Nat}
    (positive : count ≠ 0) : Accounted limits { system with handles := count } := by
  have stillOpen : ¬ system.queue.isOpen = false :=
    fun closed => shared (accounted.openWhileHeld.mp closed)
  exact { accounted with
    openWhileHeld := iff_of_false stillOpen positive
    workerLives := .inl (accounted.working shared) }

theorem close (accounted : Accounted limits system) (shared : system.handles ≠ 0) :
    Accounted limits { system with handles := 0, queue := system.queue.close } :=
  { accounted with
    openWhileHeld := iff_of_true rfl rfl
    workerLives := .inl (accounted.working shared) }

theorem take {next : Queue} (accounted : Accounted limits system)
    (taken : system.queue.take? = some next) :
    Accounted limits { system with queue := next } := by
  obtain ⟨job, rest, working, waiting, rfl⟩ := Queue.take?_eq_some.mp taken
  have inOrder := accounted.inOrder
  have waitingBound := accounted.waitingBound
  rw [waiting, List.length_cons] at waitingBound
  rw [Queue.held, working, waiting] at inOrder
  exact { accounted with
    inOrder
    waitingBound := Nat.le_of_succ_le waitingBound
    workerLives := .inl ⟨some job, rfl⟩ }

/-- The job in hand becomes the last of the started ones, and one more call runs. -/
theorem spawn {next : Queue} {job : Job} (accounted : Accounted limits system)
    (inHand : system.queue.held = some job) (begun : system.queue.begin? = some next) :
    Accounted limits
      { system with queue := next, history := system.history ++ [.started job] } := by
  obtain ⟨other, working, free, rfl⟩ := Queue.begin?_eq_some.mp begun
  have same : other = job := by
    rw [Queue.held, working] at inHand
    exact Option.some.inj inHand
  subst same
  have inOrder := accounted.inOrder
  rw [inHand] at inOrder
  have calls := accounted.calls.append_right [other]
  rw [List.append_assoc] at calls
  exact { accounted with
    inOrder := by simpa [accepted, started, Queue.held] using inOrder
    calls := by simpa [ended, started] using calls
    runningBound := by
      rw [← accounted.sameLimits, List.length_append]
      exact free
    workerLives := .inl ⟨none, rfl⟩ }

theorem finish {next : Queue} {job : Job} {place : Nat} (accounted : Accounted limits system)
    (finished : system.queue.finish? place = some (job, next)) (result : Except SinkError Unit) :
    Accounted limits
      { system with queue := next, history := system.history ++ [.ended job result] } := by
  obtain ⟨found, rfl⟩ := Queue.finish?_eq_some.mp finished
  obtain ⟨within, at_place⟩ := List.getElem?_eq_some_iff.mp found
  have taken_out : (job :: system.queue.running.eraseIdx place).Perm system.queue.running := by
    rw [← at_place]
    exact List.getElem_cons_eraseIdx_perm within
  have calls := (taken_out.append_left (ended system.history)).trans accounted.calls
  exact { accounted with
    inOrder := by simpa [accepted, started, Queue.held] using accounted.inOrder
    calls := by simpa [ended, started] using calls
    runningBound := by
      rw [List.length_eraseIdx_of_lt within]
      exact Nat.le_trans (Nat.sub_le _ _) accounted.runningBound }

theorem drain {next : Queue} (accounted : Accounted limits system)
    (drained : system.queue.drain? = some next) :
    Accounted limits { system with queue := next } := by
  obtain ⟨working, closed, waiting, _, rfl⟩ := Queue.drain?_eq_some.mp drained
  have inOrder := accounted.inOrder
  rw [Queue.held, working, waiting] at inOrder
  exact { accounted with
    inOrder := by rwa [Queue.held, waiting]
    workerLives := .inr ⟨rfl, accounted.openWhileHeld.mp closed, waiting⟩ }

/-- Whatever action is taken, the books stay right. -/
theorem next {after : System} {action : Action} (accounted : Accounted limits system)
    (moved : system.next? action = some after) : Accounted limits after := by
  cases action with
  | submit job =>
      by_cases shared : system.handles = 0
      · simp only [System.next?, if_pos shared, reduceCtorEq] at moved
      · simp only [System.next?, if_neg shared, Option.some.injEq] at moved
        exact moved ▸ accounted.submit shared job
  | clone =>
      by_cases shared : system.handles = 0
      · simp only [System.next?, if_pos shared, reduceCtorEq] at moved
      · simp only [System.next?, if_neg shared, Option.some.injEq] at moved
        exact moved ▸ accounted.share shared (Nat.succ_ne_zero _)
  | drop =>
      unfold System.next? at moved
      dsimp only at moved
      split at moved
      · cases moved
      · rename_i one
        cases moved
        exact accounted.close (by omega)
      · rename_i handles more
        cases moved
        exact accounted.share (by omega) (Nat.succ_ne_zero _)
  | take =>
      obtain ⟨queue, taken, rfl⟩ := Option.map_eq_some_iff.mp moved
      exact accounted.take taken
  | spawn =>
      unfold System.next? at moved
      dsimp only at moved
      split at moved
      · rename_i job queue inHand begun
        cases moved
        exact accounted.spawn inHand begun
      · cases moved
  | finish place result =>
      obtain ⟨⟨job, queue⟩, finished, rfl⟩ := Option.map_eq_some_iff.mp moved
      exact accounted.finish finished result
  | drain =>
      obtain ⟨queue, drained, rfl⟩ := Option.map_eq_some_iff.mp moved
      exact accounted.drain drained

theorem run {after : System} {actions : List Action} (accounted : Accounted limits system)
    (ran : system.run? actions = some after) : Accounted limits after := by
  induction actions generalizing system with
  | nil => exact Option.some.inj ran ▸ accounted
  | cons action rest ih =>
      obtain ⟨between, moved, ran⟩ := Option.bind_eq_some_iff.mp ran
      exact ih (accounted.next moved) ran

theorem of_reachable (startable : limits.inFlight ≤ Limits.mostPermits)
    (reachable : System.Reachable limits system) : Accounted limits system := by
  obtain ⟨first, actions, created, ran⟩ := reachable
  exact (of_start startable created).run ran

/-- Every accepted job has ended or is unfinished. -/
theorem ended_unfinished (accounted : Accounted limits system) :
    (ended system.history ++ system.queue.unfinished).Perm (accepted system.history) := by
  rw [accounted.inOrder, Queue.unfinished, ← List.append_assoc]
  exact accounted.calls.append_right _

end Accounted

end PresenceGateway.Dispatch
