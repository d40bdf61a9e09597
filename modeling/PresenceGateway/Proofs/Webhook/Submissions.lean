import PresenceGateway.Gateway.Service
import PresenceGateway.Proofs.Dispatch.Run
/-!
What a delivery submits and what it is answered. A refused payload and one without observations submit
nothing; an accepted one submits the update of each observation once and in order, whatever becomes of
them. How the dispatcher answers is left open, since it is shared: the worker and other deliveries may
act between two submissions.
-/
namespace PresenceGateway

variable {State : Type}

/-! ### Submitting one after the other -/

namespace Dispatch

def submitEach (submit : Submission State) :
    List Job → State → List (Except Refusal Unit) × State
  | [], state => ([], state)
  | job :: rest, state =>
    let (answer, state, _) := submit job state
    let (answers, state) := submitEach submit rest state
    (answer :: answers, state)

theorem length_submitEach (submit : Submission State) (jobs : List Job) (state : State) :
    (submitEach submit jobs state).1.length = jobs.length := by
  induction jobs generalizing state with
  | nil => rfl
  | cons job rest ih =>
      unfold submitEach
      dsimp only
      rw [List.length_cons, List.length_cons, ih]

def isTaken : Except Refusal Unit → Bool
  | .ok _ => true
  | .error _ => false

/-- Through a handle, jobs that are submitted without a pause are a run of the dispatcher, which has
every answer in its history. -/
theorem System.run?_submitEach {system : System} (shared : system.handles ≠ 0) (jobs : List Job) :
    let (answers, queue) := submitEach submit jobs system.queue
    system.run? (jobs.map .submit) = some { system with
      queue
      history := system.history ++ List.zipWith .answered jobs answers } := by
  induction jobs generalizing system with
  | nil => simp [submitEach, System.run?]
  | cons job rest ih =>
      let next : System := { system with
        queue := (submit job system.queue).2.1
        history := system.history ++ [.answered job (submit job system.queue).1] }
      have moved : system.next? (.submit job) = some next := by
        simp only [System.next?, if_neg shared, next]
      have later := @ih next shared
      dsimp only at later ⊢
      rw [List.map_cons, System.run?, moved, Option.bind_some, later]
      simp only [submitEach, next, List.zipWith_cons_cons, List.append_assoc, List.singleton_append]

end Dispatch

namespace Webhook

open Json (Value)

/-! ### What a delivery submits -/

def jobsOf (settings : Settings) (delivery : Delivery) (request : Request) : List Dispatch.Job :=
  request.observations.map fun observation =>
    { update := observation.toUpdate settings.policy request.apMac, traceId := delivery.traceId }

theorem jobsOf_eq (settings : Settings) (delivery : Delivery) (request : Request) :
    jobsOf settings delivery request =
      (request.updates settings.policy).map fun update =>
        { update, traceId := delivery.traceId } := by
  rw [jobsOf, Request.updates, List.map_map]
  rfl

theorem check_fst (settings : Settings) (delivery : Delivery) :
    (check settings delivery).1 = Payload.validateBody settings.secret delivery.body := by
  unfold check Payload.validateBody
  cases Payload.read delivery.body <;> rfl

/-- Each update is submitted once and counted once, as queued or as dropped. -/
theorem submitAll_eq (submit : Dispatch.Submission State) (delivery : Delivery)
    (updates : List Update) (state : State) (tally : Tally) :
    let (answers, after) := Dispatch.submitEach submit
      (updates.map fun update => { update, traceId := delivery.traceId }) state
    (submitAll submit delivery updates state tally).1 = after ∧
      (submitAll submit delivery updates state tally).2.1 = {
        queued := tally.queued + answers.countP Dispatch.isTaken
        dropped := tally.dropped + answers.countP fun answer => !Dispatch.isTaken answer } := by
  induction updates generalizing state tally with
  | nil => exact ⟨rfl, rfl⟩
  | cons update rest ih =>
      dsimp only at ih ⊢
      rw [List.map_cons, Dispatch.submitEach, submitAll]
      dsimp only
      cases (submit { update, traceId := delivery.traceId } state).1 with
      | ok _ =>
          dsimp only
          rw [(ih _ _).1, (ih _ _).2, List.countP_cons, List.countP_cons]
          simp [Dispatch.isTaken, Nat.add_assoc, Nat.add_comm 1]
      | error refusal =>
          cases refusal <;>
            · dsimp only
              rw [(ih _ _).1, (ih _ _).2, List.countP_cons, List.countP_cons]
              simp [Dispatch.isTaken, Nat.add_assoc, Nat.add_comm 1]

/-! ### Deliveries -/

def refusal (cause : Rejection) : Http.Response :=
  { status := cause.status
    contentType := some "application/json"
    allow := none
    body := .text (Value.text (.object [
      ("type", .string cause.code),
      ("title", .string ((reasonPhrase? cause.status).getD "error")),
      ("message", .string cause.title)])) }

/-- What a delivery does and is answered, by what its body turns out to be. -/
structure AllOrNothing (submit : Dispatch.Submission State) (settings : Settings)
    (delivery : Delivery) (state : State) (handled : Handled State) : Prop where
  refused : ∀ cause, Payload.validateBody settings.secret delivery.body = .error cause →
    handled.queue = state ∧ handled.response = refusal cause
  empty : ∀ request, Payload.validateBody settings.secret delivery.body = .ok (.empty request) →
    handled.queue = state ∧ handled.response = .empty 200
  /-- Every job is submitted once and in order, and the last stage event counts the answers. -/
  ready : ∀ request, Payload.validateBody settings.secret delivery.body = .ok (.ready request) →
    let (answers, after) := Dispatch.submitEach submit (jobsOf settings delivery request) state
    handled.queue = after ∧ handled.response = .empty 200 ∧
      ∃ queued dropped event,
        queued = answers.countP Dispatch.isTaken ∧
        queued + dropped = request.observations.length ∧
        handled.trail.tap.getLast? = some event ∧ event.stage = .normalizer ∧
        event.output.payload = .ofPairs [
          ("updates", .array ((request.updates settings.policy).map Update.redacted)),
          ("queued", .ofNat queued), ("dropped", .ofNat dropped)]

theorem ingest_refused {submit : Dispatch.Submission State} {settings : Settings}
    {delivery : Delivery} {cause : Rejection}
    (refused : Payload.validateBody settings.secret delivery.body = .error cause) (state : State) :
    (ingest submit settings delivery state).queue = state ∧
      (ingest submit settings delivery state).response = refusal cause := by
  rw [← check_fst] at refused
  simp only [ingest, refused]
  exact ⟨trivial, rfl⟩

theorem ingest_empty {submit : Dispatch.Submission State} {settings : Settings}
    {delivery : Delivery} {request : Request}
    (accepted : Payload.validateBody settings.secret delivery.body = .ok (.empty request))
    (state : State) :
    (ingest submit settings delivery state).queue = state ∧
      (ingest submit settings delivery state).response = .empty 200 := by
  rw [← check_fst] at accepted
  simp only [ingest, accepted]
  exact ⟨trivial, trivial⟩

theorem ingest_ready {submit : Dispatch.Submission State} {settings : Settings}
    {delivery : Delivery} {request : Request}
    (accepted : Payload.validateBody settings.secret delivery.body = .ok (.ready request))
    (state : State) :
    let (answers, after) := Dispatch.submitEach submit (jobsOf settings delivery request) state
    (ingest submit settings delivery state).queue = after ∧
      (ingest submit settings delivery state).response = .empty 200 ∧
      (ingest submit settings delivery state).trail.tap.getLast? = some
        (submittedEvent delivery request (request.updates settings.policy) {
          queued := answers.countP Dispatch.isTaken
          dropped := answers.countP fun answer => !Dispatch.isTaken answer }) := by
  rw [← check_fst] at accepted
  have counted := submitAll_eq submit delivery (request.updates settings.policy) state ⟨0, 0⟩
  rw [← jobsOf_eq] at counted
  simp only [Nat.zero_add] at counted
  dsimp only
  simp only [ingest, accepted, submitUpdates, counted.1, counted.2]
  simp [Trail.shown, Trail.counted, Trail.empty]

theorem countP_isTaken (answers : List (Except Dispatch.Refusal Unit)) :
    answers.countP Dispatch.isTaken + answers.countP (fun answer => !Dispatch.isTaken answer) =
      answers.length := by
  rw [List.length_eq_countP_add_countP Dispatch.isTaken]
  simp

theorem ingest_allOrNothing (submit : Dispatch.Submission State) (settings : Settings)
    (delivery : Delivery) (state : State) :
    AllOrNothing submit settings delivery state (ingest submit settings delivery state) := by
  refine ⟨fun cause refused => ingest_refused refused state,
    fun request accepted => ingest_empty accepted state, fun request accepted => ?_⟩
  obtain ⟨after, response, last⟩ := @ingest_ready _ submit _ _ _ accepted state
  refine ⟨after, response, _, _, _, rfl, ?_, last, rfl, rfl⟩
  rw [countP_isTaken, Dispatch.length_submitEach, jobsOf, List.length_map]

/-- On the dispatcher's own queue an accepted delivery is a run of the dispatcher. -/
theorem ingest_is_run {system : Dispatch.System} {settings : Settings} {delivery : Delivery}
    {request : Request} (shared : system.handles ≠ 0)
    (accepted : Payload.validateBody settings.secret delivery.body = .ok (.ready request)) :
    ∃ after, system.run? ((jobsOf settings delivery request).map .submit) = some after ∧
      after.queue = (ingest Dispatch.submit settings delivery system.queue).queue :=
  ⟨_, Dispatch.System.run?_submitEach shared _, (ingest_ready accepted system.queue).1.symm⟩

def submissions (settings : Settings) (delivery : Delivery) : List Dispatch.Job :=
  match Payload.validateBody settings.secret delivery.body with
  | .ok (.ready request) => jobsOf settings delivery request
  | _ => []

/-! ### Answers -/

theorem ingest_response (submit : Dispatch.Submission State) (settings : Settings)
    (delivery : Delivery) (state : State) :
    (ingest submit settings delivery state).response =
      match Payload.validateBody settings.secret delivery.body with
      | .error cause => refusal cause
      | .ok _ => .empty 200 := by
  cases validated : Payload.validateBody settings.secret delivery.body with
  | error cause => exact (ingest_refused validated state).2
  | ok outcome =>
      cases outcome with
      | empty request => exact (ingest_empty validated state).2
      | ready request => exact (ingest_ready validated state).2.1

end Webhook

theorem Gateway.answer_response (gateway : Gateway) (arrival : Arrival)
    (first second : Dispatch.Queue) (endpoint : Endpoint) :
    (gateway.answer arrival first endpoint).response =
      (gateway.answer arrival second endpoint).response := by
  cases endpoint with
  | health => rfl
  | metrics => rfl
  | tap => rfl
  | webhook =>
      unfold Gateway.answer
      dsimp only
      split
      · split
        · rw [Webhook.ingest_response, Webhook.ingest_response]
        · rfl
      · rfl

theorem Gateway.handle_response (gateway : Gateway) (arrival : Arrival)
    (first second : Dispatch.Queue) :
    (gateway.handle arrival first).response = (gateway.handle arrival second).response := by
  unfold Gateway.handle
  cases gateway.endpoint? arrival.request.path with
  | none => rfl
  | some endpoint =>
      dsimp only
      rw [apply_ite Webhook.Handled.response, apply_ite Webhook.Handled.response]
      split
      · have same := gateway.answer_response arrival first second endpoint
        split
        · exact congrArg Http.Response.withoutBody same
        · exact same
      · rfl

/-- A request is answered as its gateway does over any queue. -/
theorem Service.request_response {World : Type} (service : Service World) (arrival : Arrival)
    (queue : Dispatch.Queue) :
    (service.request arrival).1 =
      service.gateway.map fun gateway => (gateway.handle arrival queue).response := by
  unfold Service.request
  cases service.gateway with
  | none => rfl
  | some gateway => exact congrArg some (gateway.handle_response arrival service.queue queue)

/-- A delivery is handled as a whole or not at all, whatever state the dispatcher is in and however
it answers each submission. And no answer waits for a sink: a running gateway answers every request in
the same way over any sink, any world and any queue. -/
theorem deliveries_all_or_nothing {World : Type} (submit : Dispatch.Submission State)
    (settings : Webhook.Settings) (delivery : Webhook.Delivery) (state : State)
    (service : Service World) (arrival : Arrival) (queue : Dispatch.Queue) :
    Webhook.AllOrNothing submit settings delivery state
        (Webhook.ingest submit settings delivery state) ∧
      (service.request arrival).1 =
        service.gateway.map fun gateway => (gateway.handle arrival queue).response :=
  ⟨Webhook.ingest_allOrNothing submit settings delivery state,
    service.request_response arrival queue⟩

end PresenceGateway
