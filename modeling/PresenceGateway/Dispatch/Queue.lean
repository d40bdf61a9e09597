import PresenceGateway.Presence.Update
/-!
The dispatch queue and its worker, as a transition system.

Updates wait in a bounded queue. One worker takes the first of them, holds it until fewer than the
allowed number of sink calls are running, and starts a call for it. The worker ends when every
handle is gone, nothing waits, and it holds as many permits as it can ask for at once.
-/
namespace PresenceGateway.Dispatch

structure Job where
  update : Update
  traceId : String

structure Limits where
  capacity : Nat
  inFlight : Nat
deriving DecidableEq

namespace Limits

def default : Limits := { capacity := 1024, inFlight := 16 }

def mostPermits : Nat := 0x1FFFFFFFFFFFFFFF

def mostAtOnce : Nat := 0xFFFFFFFF

end Limits

/-- The worker: at work and perhaps holding a job, at its end, or ended before its time. -/
inductive Worker where
  | working (held : Option Job)
  | drained
  | lost

structure Queue where
  limits : Limits
  isOpen : Bool
  waiting : List Job
  worker : Worker
  running : List Job

inductive Refusal where
  | full
  | closed
deriving DecidableEq

namespace Queue

/-- A fresh dispatcher. There is none without room for an update or with more room than can be
managed, and the worker is lost at once when it may run more calls than can be managed. -/
def start? (limits : Limits) : Option Queue :=
  if limits.capacity = 0 ∨ Limits.mostPermits < limits.capacity then none
  else some {
    limits
    isOpen := true
    waiting := []
    worker := if Limits.mostPermits < limits.inFlight then .lost else .working none
    running := [] }

/-! ### Single steps -/

def submit (job : Job) (queue : Queue) : Except Refusal Queue :=
  match queue.worker with
  | .working _ =>
    if queue.waiting.length < queue.limits.capacity then
      .ok { queue with waiting := queue.waiting ++ [job] }
    else .error .full
  | _ => .error .closed

def take? (queue : Queue) : Option Queue :=
  match queue.worker, queue.waiting with
  | .working none, job :: rest => some { queue with worker := .working (some job), waiting := rest }
  | _, _ => none

def begin? (queue : Queue) : Option Queue :=
  match queue.worker with
  | .working (some job) =>
    if queue.running.length < queue.limits.inFlight then
      some { queue with worker := .working none, running := queue.running ++ [job] }
    else none
  | _ => none

def finish? (place : Nat) (queue : Queue) : Option (Job × Queue) :=
  match queue.running[place]? with
  | some job => some (job, { queue with running := queue.running.eraseIdx place })
  | none => none

def close (queue : Queue) : Queue :=
  { queue with isOpen := false }

/-- The worker ends: nothing can come any more, nothing waits, and the permits that it asks for are
free. -/
def drain? (queue : Queue) : Option Queue :=
  match queue.worker with
  | .working none =>
    let asked := min queue.limits.inFlight Limits.mostAtOnce
    if !queue.isOpen && queue.waiting.isEmpty
        && decide (queue.running.length + asked ≤ queue.limits.inFlight) then
      some { queue with worker := .drained }
    else none
  | _ => none

/-- The worker is stopped. What waits is dropped, and so is the job that it holds; running calls go
on. -/
def abort (queue : Queue) : Queue :=
  match queue.worker with
  | .working _ => { queue with worker := .lost, waiting := [] }
  | _ => queue

/-! ### Many steps -/

def workFor : Nat → Queue → Queue
  | 0, queue => queue
  | rounds + 1, queue =>
    match queue.begin? with
    | some next => workFor rounds next
    | none =>
      match queue.take? with
      | some next => workFor rounds next
      | none => queue

def work (queue : Queue) : Queue :=
  workFor (2 * queue.waiting.length + 1) queue

def pending (queue : Queue) : Nat :=
  queue.waiting.length + queue.running.length + match queue.worker with
    | .working (some _) => 1
    | _ => 0

end Queue

end PresenceGateway.Dispatch
