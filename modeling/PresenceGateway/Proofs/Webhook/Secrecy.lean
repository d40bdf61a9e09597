import PresenceGateway.Proofs.Json.ReadingBack
import PresenceGateway.Proofs.Payload.Acceptance
import PresenceGateway.Proofs.Webhook.Submissions
/-!
The shared secret stays inside. Two deliveries whose payloads are the same but for the secret leave
the same behind when both secrets are right, and when both are wrong. Only what belongs to a delivery
as such can differ: the name under which it is traced, its times and its length. `untraced` puts the
same thing in the place of each of them.
-/
namespace PresenceGateway

/-! ### Without traces -/

def Log.Event.untraced (event : Log.Event) : Log.Event :=
  { event with
    fields := event.fields.map fun field =>
      if field.1 = "trace_id" then (field.1, .shown "") else field }

def Tap.Event.untraced (event : Tap.Event) : Tap.Event :=
  { event with
    traceId := event.traceId.map fun _ => ""
    details := { event.details with
      sizeBytes := event.details.sizeBytes.map fun _ => 0
      latency := event.details.latency.map fun _ => .zero false } }

namespace Trail

def untraced (trail : Trail) : Trail :=
  { trail with
    log := trail.log.map Log.Event.untraced
    tap := trail.tap.map Tap.Event.untraced }

@[simp] theorem untraced_append (first second : Trail) :
    (first ++ second).untraced = first.untraced ++ second.untraced := by
  have parts : (first ++ second).untraced = {
      log := (first.log ++ second.log).map Log.Event.untraced
      tap := (first.tap ++ second.tap).map Tap.Event.untraced
      metrics := first.metrics ++ second.metrics } := rfl
  rw [parts, List.map_append, List.map_append]
  rfl

end Trail

namespace Dispatch

def Job.untraced (job : Job) : Job :=
  { job with traceId := "" }

def Worker.untraced : Worker → Worker
  | .working held => .working (held.map Job.untraced)
  | .drained => .drained
  | .lost => .lost

def Queue.untraced (queue : Queue) : Queue :=
  { queue with
    waiting := queue.waiting.map Job.untraced
    worker := queue.worker.untraced
    running := queue.running.map Job.untraced }

/-- Without traces a submission is the submission without traces. -/
theorem submit_untraced (job : Job) (queue : Queue) :
    submit job.untraced queue.untraced =
      ((submit job queue).1, (submit job queue).2.1.untraced, (submit job queue).2.2.untraced) := by
  cases worker : queue.worker with
  | working held =>
      have alive : queue.untraced.worker = .working (held.map Job.untraced) := by
        rw [Queue.untraced, worker, Worker.untraced]
      by_cases room : queue.waiting.length < queue.limits.capacity
      · have roomToo : queue.untraced.waiting.length < queue.untraced.limits.capacity := by
          rwa [Queue.untraced, List.length_map]
        rw [submit_of_room worker room, submit_of_room alive roomToo]
        simp [Queue.untraced, Trail.untraced, Trail.empty]
      · have fullToo : ¬ queue.untraced.waiting.length < queue.untraced.limits.capacity := by
          rwa [Queue.untraced, List.length_map]
        rw [submit_of_no_room worker room, submit_of_no_room alive fullToo]
        rfl
  | drained => simp [submit, Queue.submit, Queue.untraced, worker, Worker.untraced, Trail.untraced,
      Trail.empty]
  | lost => simp [submit, Queue.submit, Queue.untraced, worker, Worker.untraced, Trail.untraced,
      Trail.empty]

end Dispatch

/-! ### Requests without their secret -/

def Request.concealed (request : Request) : Request :=
  { request with secret := Request.hiddenSecret }

def Validated.concealed : Validated → Validated
  | .empty request => .empty request.concealed
  | .ready request => .ready request.concealed

theorem Validated.cases_of_concealed {first second : Except Rejection Validated}
    (same : first.map concealed = second.map concealed) :
    (∃ cause, first = .error cause ∧ second = .error cause) ∨
      (∃ request other, first = .ok (.empty request) ∧ second = .ok (.empty other) ∧
        request.concealed = other.concealed) ∨
      ∃ request other, first = .ok (.ready request) ∧ second = .ok (.ready other) ∧
        request.concealed = other.concealed := by
  rcases first with cause | (request | request) <;> rcases second with causeToo | (other | other)
  case error.error => exact .inl ⟨cause, rfl, by rw [Except.error.inj same]⟩
  case ok.empty.ok.empty =>
    exact .inr (.inl ⟨request, other, rfl, rfl, Validated.empty.inj (Except.ok.inj same)⟩)
  case ok.ready.ok.ready =>
    exact .inr (.inr ⟨request, other, rfl, rfl, Validated.ready.inj (Except.ok.inj same)⟩)
  all_goals cases same

theorem Json.Tree.ascending_of_toValue? {levels : Nat} {tree : Json.Tree} {members : Json.Members}
    (read : tree.toValue? levels = some (.object members)) : members.Ascending := by
  cases tree with
  | object pairs =>
      cases levels with
      | zero => cases read
      | succ levels =>
          obtain ⟨listed, _, same⟩ := Option.map_eq_some_iff.mp read
          cases same
          exact Json.Members.ascending_ofList listed
  | array items => cases levels <;> simp [Json.Tree.toValue?] at read
  | _ => simp [Json.Tree.toValue?] at read

namespace Payload

open Json (Value Members)

/-- Two payloads that are the same but for the value of the secret. -/
def AgreeOutside (first second : Members) : Prop :=
  ∀ key, key ≠ "secret" → first.get? key = second.get? key

def CarriesSecret (configured : String) (payload : Members) : Prop :=
  configured ≠ "" ∧ payload.get? "secret" = some (.string configured)

/-- A payload with a secret that counts as one and is not the configured one. -/
def CarriesAnother (configured : String) (payload : Members) : Prop :=
  ∃ secret, payload.get? "secret" = some secret ∧ secret.isTruthy = true ∧
    secret ≠ .string configured

theorem CarriesSecret.checkSecret {configured : String} {payload : Members}
    (carries : CarriesSecret configured payload) :
    checkSecret configured (payload.get? "secret") = .ok configured :=
  (checkSecret_eq_ok_iff _ _ _).mpr ⟨rfl, carries.2, carries.1⟩

theorem CarriesAnother.checkSecret {configured : String} {payload : Members}
    (carries : CarriesAnother configured payload) :
    checkSecret configured (payload.get? "secret") = .error .invalidSecret := by
  obtain ⟨secret, found, truthy, different⟩ := carries
  rcases ok_or_error (Payload.checkSecret configured (payload.get? "secret")) with
    ⟨accepted, passed⟩ | ⟨cause, refused⟩
  · obtain ⟨_, same, _⟩ := (checkSecret_eq_ok_iff _ _ _).mp passed
    rw [found] at same
    exact absurd (Option.some.inj same) different
  · rcases checkSecret_eq_error refused with ⟨_, falsy⟩ | ⟨rfl, _, _⟩
    · have impossible := (Value.isTruthy_eq_false_iff secret).mpr (falsy secret found)
      rw [truthy] at impossible
      cases impossible
    · exact refused

theorem read_ascending {body : List UInt8} {payload : Members}
    (read : Payload.read body = .ok payload) : payload.Ascending := by
  unfold Payload.read at read
  split at read
  · cases read
  · rename_i members found
    cases read
    obtain ⟨tree, _, valued⟩ := Option.bind_eq_some_iff.mp found
    exact Json.Tree.ascending_of_toValue? valued
  · cases read

theorem redactSecret_ascending {payload : Members} (ascending : payload.Ascending) :
    (redactSecret payload).Ascending := by
  refine List.Pairwise.map _ (fun first second before => ?_) ascending
  rwa [apply_ite Prod.fst, apply_ite Prod.fst, ite_self, ite_self]

theorem get?_redactSecret (payload : Members) (key : String) :
    (redactSecret payload).get? key =
      if key = "secret" then (payload.get? key).map fun _ => .string Request.hiddenSecret
      else payload.get? key := by
  induction payload with
  | nil => simp [redactSecret, Members.get?]
  | cons head tail ih =>
      obtain ⟨other, value⟩ := head
      unfold redactSecret at ih ⊢
      rw [List.map_cons, Members.get?_cons]
      dsimp only
      by_cases hidden : other = "secret"
      · rw [if_pos hidden, Members.get?_cons, ih, hidden]
        by_cases here : key = "secret"
        · simp only [if_pos here, Option.map_some]
        · simp only [if_neg here]
      · rw [if_neg hidden, Members.get?_cons, ih]
        by_cases here : key = other
        · have kept : ¬ key = "secret" := fun same => hidden (here.symm.trans same)
          rw [if_pos here, if_pos here, if_neg kept]
        · rw [if_neg here, if_neg here]

section TwoPayloads

variable {first second : Members} {configured other : String}

theorem redactSecret_eq (ascending : first.Ascending) (ascendingToo : second.Ascending)
    (agree : AgreeOutside first second) (given : (first.get? "secret").isSome)
    (givenToo : (second.get? "secret").isSome) : redactSecret first = redactSecret second := by
  apply Members.Ascending.ext (redactSecret_ascending ascending)
    (redactSecret_ascending ascendingToo)
  intro key
  rw [get?_redactSecret, get?_redactSecret]
  by_cases here : key = "secret"
  · obtain ⟨secret, found⟩ := Option.isSome_iff_exists.mp given
    obtain ⟨secretToo, foundToo⟩ := Option.isSome_iff_exists.mp givenToo
    rw [here, found, foundToo]
    rfl
  · rw [if_neg here, if_neg here, agree key here]

/-- Behind a right secret a payload is judged by its other members. -/
theorem validate_concealed (agree : AgreeOutside first second)
    (carries : CarriesSecret configured first) (carriesToo : CarriesSecret other second) :
    (validate configured first).map Validated.concealed =
      (validate other second).map Validated.concealed := by
  unfold validate
  rw [carries.checkSecret, carriesToo.checkSecret, agree "version" (by decide),
    agree "type" (by decide), agree "data" (by decide)]
  cases checkName ApiVersion.parse? .invalidVersion (second.get? "version") with
  | error cause => rfl
  | ok version =>
      cases checkName ObservationType.parse? .invalidType (second.get? "type") with
      | error cause => rfl
      | ok observationType =>
          cases checkData (second.get? "data") with
          | error cause => rfl
          | ok data =>
              simp only [bind, Except.bind]
              cases checkList (data.get? "observations") with
              | error cause => rfl
              | ok items =>
                  dsimp only
                  cases checkObservations 0 items with
                  | error cause => rfl
                  | ok observations => cases observations <;> rfl

theorem validate_another {payload : Members} (carries : CarriesAnother configured payload) :
    validate configured payload = .error .invalidSecret := by
  unfold validate
  rw [carries.checkSecret]
  rfl

end TwoPayloads

end Payload

/-! ### Two deliveries -/

namespace Dispatch

theorem submit_alike {job other : Job} {queue queueToo : Queue}
    (sameJob : job.untraced = other.untraced) (sameQueue : queue.untraced = queueToo.untraced) :
    (submit job queue).1 = (submit other queueToo).1 ∧
      (submit job queue).2.1.untraced = (submit other queueToo).2.1.untraced ∧
      (submit job queue).2.2.untraced = (submit other queueToo).2.2.untraced := by
  have here := submit_untraced job queue
  rw [sameJob, sameQueue, submit_untraced other queueToo] at here
  obtain ⟨answer, later⟩ := Prod.mk.inj here
  obtain ⟨queues, trails⟩ := Prod.mk.inj later
  exact ⟨answer.symm, queues.symm, trails.symm⟩

end Dispatch

namespace Webhook

open Json (Value Members)

def Handled.untraced (handled : Handled Dispatch.Queue) : Handled Dispatch.Queue :=
  { handled with queue := handled.queue.untraced, trail := handled.trail.untraced }

section TwoDeliveries

variable (delivery other : Delivery) {queue queueToo : Dispatch.Queue}

theorem submitAll_alike (updates : List Update) (sameQueue : queue.untraced = queueToo.untraced)
    (tally : Tally) :
    (submitAll Dispatch.submit delivery updates queue tally).1.untraced =
        (submitAll Dispatch.submit other updates queueToo tally).1.untraced ∧
      (submitAll Dispatch.submit delivery updates queue tally).2.1 =
        (submitAll Dispatch.submit other updates queueToo tally).2.1 ∧
      (submitAll Dispatch.submit delivery updates queue tally).2.2.untraced =
        (submitAll Dispatch.submit other updates queueToo tally).2.2.untraced := by
  induction updates generalizing queue queueToo tally with
  | nil => exact ⟨sameQueue, rfl, rfl⟩
  | cons update rest ih =>
      obtain ⟨answers, queues, trails⟩ := @Dispatch.submit_alike
        { update, traceId := delivery.traceId } { update, traceId := other.traceId } _ _ rfl
        sameQueue
      simp only [submitAll]
      rw [answers]
      cases (Dispatch.submit { update, traceId := other.traceId } queueToo).1 with
      | ok _ =>
          obtain ⟨laterQueues, tallies, laterTrails⟩ := ih queues
            { tally with queued := tally.queued + 1 }
          refine ⟨laterQueues, tallies, ?_⟩
          rw [Trail.untraced_append, Trail.untraced_append, trails, laterTrails]
      | error refusal =>
          obtain ⟨laterQueues, tallies, laterTrails⟩ := ih queues
            { tally with dropped := tally.dropped + 1 }
          cases refusal with
          | full =>
              refine ⟨laterQueues, tallies, ?_⟩
              dsimp only
              rw [Trail.untraced_append, Trail.untraced_append, trails, laterTrails]
          | closed =>
              refine ⟨laterQueues, tallies, ?_⟩
              dsimp only
              rw [Trail.untraced_append, Trail.untraced_append, Trail.untraced_append,
                Trail.untraced_append, trails, laterTrails]
              rfl

theorem receivedLog_alike {payload payloadToo : Members}
    (same : Payload.redactSecret payload = Payload.redactSecret payloadToo) :
    (receivedLog delivery payload).untraced = (receivedLog other payloadToo).untraced := by
  simp only [receivedLog, same]
  rfl

theorem refusedTrail_alike (cause : Rejection) :
    (refusedTrail delivery cause).untraced = (refusedTrail other cause).untraced := by
  cases cause <;> rfl

theorem emptyTrail_alike {request requestToo : Request}
    (same : request.concealed = requestToo.concealed) :
    (emptyTrail delivery request).untraced = (emptyTrail other requestToo).untraced := by
  cases request
  cases requestToo
  cases same
  rfl

theorem readyTrail_alike {request requestToo : Request}
    (same : request.concealed = requestToo.concealed) :
    (readyTrail delivery request).untraced = (readyTrail other requestToo).untraced := by
  cases request
  cases requestToo
  cases same
  rfl

theorem submitUpdates_alike {request requestToo : Request} (settings settingsToo : Settings)
    (samePolicy : settings.policy = settingsToo.policy)
    (same : request.concealed = requestToo.concealed)
    (sameQueue : queue.untraced = queueToo.untraced) :
    (submitUpdates Dispatch.submit settings delivery request queue).1.untraced =
        (submitUpdates Dispatch.submit settingsToo other requestToo queueToo).1.untraced ∧
      (submitUpdates Dispatch.submit settings delivery request queue).2.untraced =
        (submitUpdates Dispatch.submit settingsToo other requestToo queueToo).2.untraced := by
  have sameUpdates : request.updates settings.policy = requestToo.updates settingsToo.policy := by
    cases request
    cases requestToo
    cases same
    rw [samePolicy]
    rfl
  obtain ⟨queues, tallies, trails⟩ := submitAll_alike delivery other
    (requestToo.updates settingsToo.policy) sameQueue ⟨0, 0⟩
  refine ⟨?_, ?_⟩
  · simp only [submitUpdates, sameUpdates, queues]
  · simp only [submitUpdates, sameUpdates, tallies, Trail.untraced_append, trails]
    cases request
    cases requestToo
    cases same
    rfl

theorem ingest_alike {settings settingsToo : Settings} {payload payloadToo : Members}
    (read : Payload.read delivery.body = .ok payload)
    (readToo : Payload.read other.body = .ok payloadToo)
    (samePolicy : settings.policy = settingsToo.policy)
    (sameShown : Payload.redactSecret payload = Payload.redactSecret payloadToo)
    (sameOutcome : (Payload.validate settings.secret payload).map Validated.concealed =
      (Payload.validate settingsToo.secret payloadToo).map Validated.concealed)
    (sameQueue : queue.untraced = queueToo.untraced) :
    (ingest Dispatch.submit settings delivery queue).untraced =
      (ingest Dispatch.submit settingsToo other queueToo).untraced := by
  have received : ({ Trail.empty with log := [receivedLog delivery payload] } : Trail).untraced =
      ({ Trail.empty with log := [receivedLog other payloadToo] } : Trail).untraced := by
    simp only [Trail.untraced, List.map_cons, receivedLog_alike delivery other sameShown]
  rcases Validated.cases_of_concealed sameOutcome with
    ⟨cause, refused, refusedToo⟩ | ⟨request, requestToo, empty, emptyToo, same⟩ |
    ⟨request, requestToo, ready, readyToo, same⟩
  · simp only [ingest, check, read, readToo, refused, refusedToo, Handled.untraced,
      Trail.untraced_append, received, refusedTrail_alike delivery other, sameQueue]
  · simp only [ingest, check, read, readToo, empty, emptyToo, Handled.untraced,
      Trail.untraced_append, received, emptyTrail_alike delivery other same, sameQueue]
  · obtain ⟨queues, trails⟩ := submitUpdates_alike delivery other settings settingsToo samePolicy
      same sameQueue
    simp only [ingest, check, read, readToo, ready, readyToo, Handled.untraced,
      Trail.untraced_append, received, readyTrail_alike delivery other same, queues, trails]

end TwoDeliveries

theorem submissions_alike {settings settingsToo : Settings} (delivery other : Delivery)
    (samePolicy : settings.policy = settingsToo.policy)
    (same : (Payload.validateBody settings.secret delivery.body).map Validated.concealed =
      (Payload.validateBody settingsToo.secret other.body).map Validated.concealed) :
    (submissions settings delivery).map (·.update) =
      (submissions settingsToo other).map (·.update) := by
  unfold submissions
  rcases Validated.cases_of_concealed same with
    ⟨cause, refused, refusedToo⟩ | ⟨request, requestToo, empty, emptyToo, _⟩ |
    ⟨request, requestToo, ready, readyToo, alike⟩
  · rw [refused, refusedToo]
  · rw [empty, emptyToo]
  · rw [ready, readyToo]
    cases request
    cases requestToo
    cases alike
    simp [jobsOf, samePolicy, Function.comp_def]

theorem debugText_alike {first second : Except Rejection Validated}
    (same : first.map Validated.concealed = second.map Validated.concealed) :
    first.map (fun outcome => outcome.request.debugText) =
      second.map fun outcome => outcome.request.debugText := by
  rcases Validated.cases_of_concealed same with
    ⟨cause, rfl, rfl⟩ | ⟨request, other, rfl, rfl, alike⟩ | ⟨request, other, rfl, rfl, alike⟩
  · rfl
  · have texts : request.concealed.debugText = other.concealed.debugText := by rw [alike]
    exact congrArg Except.ok texts
  · have texts : request.concealed.debugText = other.concealed.debugText := by rw [alike]
    exact congrArg Except.ok texts

/-- The secret is never shown. Two deliveries whose payloads are the same but for the secret, and
both right or both wrong about it, are answered alike and leave alike log events, stage events,
counts and jobs, up to the names under which they are traced, their times and their lengths. What they
submit and the diagnostic text of what was accepted are the same. -/
theorem secret_never_shown (settings : Settings) {secret secretToo : String}
    {delivery other : Delivery} {payload payloadToo : Members} {queue queueToo : Dispatch.Queue}
    (read : Payload.read delivery.body = .ok payload)
    (readToo : Payload.read other.body = .ok payloadToo)
    (agree : Payload.AgreeOutside payload payloadToo)
    (secrets :
      (Payload.CarriesSecret secret payload ∧ Payload.CarriesSecret secretToo payloadToo) ∨
      (Payload.CarriesAnother secret payload ∧ Payload.CarriesAnother secretToo payloadToo))
    (sameQueue : queue.untraced = queueToo.untraced) :
    (ingest Dispatch.submit { settings with secret := secret } delivery queue).untraced =
        (ingest Dispatch.submit { settings with secret := secretToo } other queueToo).untraced ∧
      (submissions { settings with secret := secret } delivery).map (·.update) =
        (submissions { settings with secret := secretToo } other).map (·.update) ∧
      (Payload.validateBody secret delivery.body).map (fun outcome => outcome.request.debugText) =
        (Payload.validateBody secretToo other.body).map fun outcome =>
          outcome.request.debugText := by
  have given : (payload.get? "secret").isSome ∧ (payloadToo.get? "secret").isSome := by
    rcases secrets with ⟨⟨_, found⟩, _, foundToo⟩ | ⟨⟨_, found, _⟩, _, foundToo, _⟩
    · rw [found, foundToo]
      exact ⟨rfl, rfl⟩
    · rw [found, foundToo]
      exact ⟨rfl, rfl⟩
  have sameShown : Payload.redactSecret payload = Payload.redactSecret payloadToo :=
    Payload.redactSecret_eq (Payload.read_ascending read) (Payload.read_ascending readToo) agree
      given.1 given.2
  have sameOutcome : (Payload.validate secret payload).map Validated.concealed =
      (Payload.validate secretToo payloadToo).map Validated.concealed := by
    rcases secrets with ⟨right, rightToo⟩ | ⟨wrong, wrongToo⟩
    · exact Payload.validate_concealed agree right rightToo
    · rw [Payload.validate_another wrong, Payload.validate_another wrongToo]
  have sameBody : (Payload.validateBody secret delivery.body).map Validated.concealed =
      (Payload.validateBody secretToo other.body).map Validated.concealed := by
    simp only [Payload.validateBody, read, readToo]
    exact sameOutcome
  exact ⟨ingest_alike delivery other read readToo rfl sameShown sameOutcome sameQueue,
    submissions_alike delivery other rfl sameBody, debugText_alike sameBody⟩

private def oneDevice : Value :=
  .object [("clientMac", .string "m"),
    ("location", .object [("lat", .string "1"), ("lng", .string "2")])]

private def onePayload (secret : String) : Members :=
  [("data", .object [("observations", .array [oneDevice])]), ("secret", .string secret),
    ("type", .string "DevicesSeen"), ("version", .string "2.0")]

private def oneDelivery (secret : String) : Delivery :=
  { traceId := secret, ingressTime := .zero false, normalizerTime := .zero false
    body := Text.Utf8.encode (Value.text (.object (onePayload secret))) }

private theorem onePayload_readsBack (secret : String) :
    (Value.object (onePayload secret)).ReadsBack 127 := by
  have ordered : (Value.object (onePayload secret)).Ordered := by
    have place : (Value.object [("lat", .string "1"), ("lng", .string "2")]).Ordered :=
      .object (by decide) (by simp [Value.Ordered.string])
    have device : oneDevice.Ordered := .object (by decide) (by simp [Value.Ordered.string, place])
    have devices : (Value.array [oneDevice]).Ordered := .array (by simpa using device)
    have data : (Value.object [("observations", .array [oneDevice])]).Ordered :=
      .object (List.pairwise_singleton _ _) (by simpa using devices)
    have keys : ["data", "secret", "type", "version"].Pairwise (· < ·) := by decide
    exact .object (List.pairwise_map.mp keys) (by simp [onePayload, Value.Ordered.string, data])
  have lasting : (Value.object (onePayload secret)).Lasting 127 := by
    have place : (Value.object [("lat", .string "1"), ("lng", .string "2")]).Lasting 123 :=
      .object (by simp [Value.Lasting.string])
    have device : oneDevice.Lasting 124 := .object (by simp [Value.Lasting.string, place])
    have devices : (Value.array [oneDevice]).Lasting 125 := .array (by simpa using device)
    have data : (Value.object [("observations", .array [oneDevice])]).Lasting 126 :=
      .object (by simpa using devices)
    exact .object (by simp [onePayload, Value.Lasting.string, data])
  exact (Value.readsBack_iff_lasting ordered 127).mpr lasting

private theorem oneDelivery_read {secret : String}
    (written : Json.Tree.read? (oneDelivery secret).body =
      some (Json.Tree.ofValue (.object (onePayload secret)))) :
    Payload.read (oneDelivery secret).body = .ok (onePayload secret) := by
  have read : Value.read? (oneDelivery secret).body = some (.object (onePayload secret)) := by
    rw [Value.read?, written, Option.bind_some]
    exact onePayload_readsBack secret
  rw [Payload.read, read]

set_option maxRecDepth 10000 in
private theorem oneDelivery_read_a :
    Payload.read (oneDelivery "a").body = .ok (onePayload "a") :=
  oneDelivery_read rfl

set_option maxRecDepth 10000 in
private theorem oneDelivery_read_b :
    Payload.read (oneDelivery "b").body = .ok (onePayload "b") :=
  oneDelivery_read rfl

/-- Two gateways with the secrets "a" and "b" see the same device, each with its own secret. -/
theorem secret_never_shown_for_one_device :
    let settings : Settings := { validator := "", secret := "", path := "/", policy := .omitEmpty }
    let queue : Dispatch.Queue :=
      { limits := ⟨1, 1⟩, isOpen := true, waiting := [], worker := .working none, running := [] }
    Payload.read (oneDelivery "a").body = .ok (onePayload "a") ∧
      Payload.read (oneDelivery "b").body = .ok (onePayload "b") ∧
      (ingest Dispatch.submit { settings with secret := "a" } (oneDelivery "a") queue).untraced =
        (ingest Dispatch.submit { settings with secret := "b" } (oneDelivery "b") queue).untraced := by
  intro settings queue
  have agree : Payload.AgreeOutside (onePayload "a") (onePayload "b") := by
    intro key outside
    simp [onePayload, Members.get?_cons, outside]
  have carries (secret : String) (given : secret ≠ "") :
      Payload.CarriesSecret secret (onePayload secret) :=
    ⟨given, by simp [onePayload, Members.get?_cons]⟩
  have sameQueue : queue.untraced = queue.untraced := rfl
  obtain ⟨alike, _⟩ := secret_never_shown settings oneDelivery_read_a oneDelivery_read_b agree
    (.inl ⟨carries "a" (by decide), carries "b" (by decide)⟩) sameQueue
  exact ⟨oneDelivery_read_a, oneDelivery_read_b, alike⟩

end Webhook

end PresenceGateway
