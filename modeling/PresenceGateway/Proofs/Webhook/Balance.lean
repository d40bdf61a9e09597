import PresenceGateway.Proofs.Webhook.Books
/-!
Whether the counts and the stage events add up. Counts are left in different places, some before and
some after a job is handed over, so each balance is one of the books of a whole run, read when the
deliveries have been handled.
-/
namespace PresenceGateway.Webhook

variable {settings : Settings} {traffic : Traffic} {limits : Dispatch.Limits} (measure : Measure)

/-! ### Counts -/

/-- The accepted jobs that have no recorded outcome: those in the dispatcher, and those whose sink
call has ended without being counted. -/
def Traffic.unrecorded (traffic : Traffic) : Nat :=
  traffic.dispatcher.queue.unfinished.length + traffic.recordings.countP (!·.counted)

def observed (settings : Settings) (delivery : Delivery) : Nat :=
  match Payload.validateBody settings.secret delivery.body with
  | .ok (.ready request) => request.observations.length
  | _ => 0

theorem length_submissions (settings : Settings) (delivery : Delivery) :
    (submissions settings delivery).length = observed settings delivery := by
  unfold submissions observed
  rcases Payload.validateBody settings.secret delivery.body with cause | request | request
  · rfl
  · rfl
  · exact List.length_map _

theorem sum_ofHappening {ofDropped ofEnded : Dispatch.Job → Nat}
    (ofDropped_eq : ∀ job, measure.of (Dispatch.droppedTrail job) = ofDropped job)
    (ofEnded_eq : ∀ job answer, measure.of (Dispatch.outcomeTrail job answer) = ofEnded job)
    (history : List Dispatch.Happening) :
    (history.map (ofHappening measure)).sum =
      ((dropped history).map ofDropped).sum + ((Dispatch.ended history).map ofEnded).sum := by
  induction history with
  | nil => rfl
  | cons happening rest ih =>
      rw [List.map_cons, List.sum_cons, ih]
      cases happening with
      | started job => exact Nat.zero_add _
      | answered job result =>
          rcases result with (_ | _) | _
          · change measure.of (Dispatch.droppedTrail job) + _ =
              (ofDropped job + ((dropped rest).map ofDropped).sum) +
                ((Dispatch.ended rest).map ofEnded).sum
            rw [ofDropped_eq, Nat.add_assoc]
          · exact Nat.zero_add _
          · exact Nat.zero_add _
      | ended job result =>
          change measure.of (Dispatch.outcomeTrail job _) + _ =
            ((dropped rest).map ofDropped).sum +
              (ofEnded job + ((Dispatch.ended rest).map ofEnded).sum)
          rw [ofEnded_eq]
          omega

/-- Of counts that the dispatcher leaves once for each dropped and each ended job, or not at all. -/
theorem Books.counts (books : Books limits settings traffic) (each : Nat)
    (handled : traffic.underWay = [])
    (unseen : ∀ event, measure.shows event = false)
    (ofDropped : ∀ job, measure.of (Dispatch.droppedTrail job) = each)
    (ofEnded : ∀ job answer, measure.of (Dispatch.outcomeTrail job answer) = each) :
    measure.of traffic.trail + each * traffic.recordings.countP (!·.counted) =
      (traffic.arrived.map fun delivery =>
        (Handling.of settings delivery).ahead measure).sum +
      each * ((dropped traffic.dispatcher.history).length +
        (Dispatch.ended traffic.dispatcher.history).length) := by
  have unshown (trail : Trail) : trail.tap.countP measure.shows = 0 :=
    List.countP_eq_zero.mpr fun event _ => Bool.eq_false_iff.mp (unseen event)
  have recorded (recording : Recording) :
      recording.ahead measure = if recording.counted then 0 else each := by
    have whole := ofEnded recording.job recording.answer
    rw [← recording.counts_append_shows, Measure.of_append] at whole
    have shows : measure.of recording.shows = 0 := (Nat.zero_add _).trans (unshown _)
    rw [Recording.ahead, shows, Nat.add_zero]
    rw [shows, Nat.add_zero] at whole
    rw [whole]
  have recordings : (traffic.recordings.map (Recording.ahead measure)).sum =
      each * traffic.recordings.countP (!·.counted) := by
    induction traffic.recordings with
    | nil => rfl
    | cons recording rest ih =>
        rw [List.map_cons, List.sum_cons, ih, List.countP_cons, recorded]
        cases recording.counted with
        | true => exact Nat.zero_add _
        | false => exact (Nat.add_comm _ _).trans (Nat.mul_succ _ _).symm
  have reports (report : Report) : measure.of (report.trail settings) = 0 :=
    (Nat.zero_add _).trans (unshown _)
  have balances := books.balances measure
  rw [Balances, handled, sum_ofHappening measure ofDropped ofEnded, recordings] at balances
  simp only [reports, List.map_nil, List.sum_nil, Nat.add_zero, List.map_const',
    List.sum_replicate_nat, Nat.mul_zero] at balances
  rw [balances, Nat.mul_add, Nat.mul_comm each, Nat.mul_comm each]

/-- The counts of some metrics that the dispatcher does not count. -/
theorem Books.totals (books : Books limits settings traffic)
    (handled : traffic.underWay = []) (listed : List Metric)
    (foreign : ∀ result, Metric.dispatch result ∉ listed) :
    (listed.map traffic.trail.metrics.total).sum =
      (traffic.arrived.map fun delivery =>
        (Handling.of settings delivery).ahead (.totals listed)).sum := by
  have absent (result : String) : listed.count (.dispatch result) = 0 :=
    List.count_eq_zero.mpr (foreign result)
  have counts := books.counts (.totals listed) 0 handled (fun _ => rfl)
    (fun job => by
      simp [Measure.of, Measure.totals, Dispatch.droppedTrail, Trail.counted, Trail.logged,
        Trail.empty, absent])
    (fun job answer => by
      simp [Measure.of, Measure.totals, Dispatch.outcomeTrail, absent])
  rw [Measure.totals_of, Nat.zero_mul, Nat.zero_mul, Nat.add_zero, Nat.add_zero] at counts
  exact counts

def openingTrail (settings : Settings) (delivery : Delivery) : Trail :=
  match Payload.validateBody settings.secret delivery.body with
  | .error cause => refusedTrail delivery cause
  | .ok (.empty request) => emptyTrail delivery request
  | .ok (.ready request) => readyTrail delivery request

theorem ahead_of (settings : Settings) (delivery : Delivery) :
    (Handling.of settings delivery).ahead measure =
      measure.of (openingTrail settings delivery) + measure.of acknowledgedTrail := by
  have silent (log : List Log.Event) : measure.of { Trail.empty with log } = 0 := rfl
  unfold Handling.of openingTrail
  rw [← check_fst]
  rcases check settings delivery with ⟨cause | request | request, log⟩ <;>
    simp [Handling.ahead, Trail.join_append, Measure.of_append, silent]

theorem Books.arrivals (books : Books limits settings traffic)
    (handled : traffic.underWay = []) :
    traffic.trail.metrics.total (.ingress "accepted") +
        traffic.trail.metrics.total (.ingress "empty") +
        traffic.trail.metrics.total (.ingress "rejected") =
      traffic.arrived.length := by
  have totals := books.totals handled
    [.ingress "accepted", .ingress "empty", .ingress "rejected"] (by simp)
  have once (delivery : Delivery) : (Handling.of settings delivery).ahead
      (.totals [.ingress "accepted", .ingress "empty", .ingress "rejected"]) = 1 := by
    rw [ahead_of, openingTrail]
    rcases Payload.validateBody settings.secret delivery.body with cause | request | request <;>
      simp [Measure.of, Measure.totals, refusedTrail, emptyTrail, readyTrail, acknowledgedTrail,
        Trail.counted]
  simp only [once, List.map_cons, List.map_nil, List.sum_cons, List.sum_nil, List.map_const',
    List.sum_replicate_nat, Nat.mul_one] at totals
  omega

theorem Books.observations (books : Books limits settings traffic)
    (handled : traffic.underWay = []) :
    traffic.trail.metrics.total (.observations "wifi") +
        traffic.trail.metrics.total (.observations "bluetooth") =
      (traffic.arrived.map (observed settings)).sum := by
  have totals := books.totals handled
    [.observations "wifi", .observations "bluetooth"] (by simp)
  have each (delivery : Delivery) : (Handling.of settings delivery).ahead
      (.totals [.observations "wifi", .observations "bluetooth"]) = observed settings delivery := by
    rw [ahead_of, openingTrail, observed]
    rcases Payload.validateBody settings.secret delivery.body with cause | request | request
    · simp [Measure.of, Measure.totals, refusedTrail, acknowledgedTrail, Trail.counted]
    · simp [Measure.of, Measure.totals, emptyTrail, acknowledgedTrail, Trail.counted]
    · cases kind : request.observationType <;>
        simp [Measure.of, Measure.totals, readyTrail, acknowledgedTrail, Trail.counted, kind,
          ObservationType.metricLabel]
  simp only [each, List.map_cons, List.map_nil, List.sum_cons, List.sum_nil] at totals
  exact totals

theorem Books.rejections (books : Books limits settings traffic)
    (handled : traffic.underWay = []) :
    traffic.trail.metrics.rejections = traffic.trail.metrics.total (.ingress "rejected") := by
  have rejected := books.totals handled [.ingress "rejected"] (by simp)
  have reasons := books.counts .rejections 0 handled (fun _ => rfl) (fun job => rfl)
    (fun job answer => rfl)
  have alike (delivery : Delivery) :
      (Handling.of settings delivery).ahead (.totals [.ingress "rejected"]) =
        (Handling.of settings delivery).ahead .rejections := by
    rw [ahead_of, ahead_of, openingTrail]
    rcases Payload.validateBody settings.secret delivery.body with cause | request | request <;>
      simp [Measure.of, Measure.totals, Measure.rejections, refusedTrail, emptyTrail, readyTrail,
        acknowledgedTrail, Trail.counted]
  rw [Measure.rejections_of, Nat.zero_mul, Nat.zero_mul, Nat.add_zero, Nat.add_zero] at reasons
  simp only [alike, List.map_cons, List.map_nil, List.sum_cons, List.sum_nil,
    Nat.add_zero] at rejected
  rw [reasons, rejected]

theorem Books.outcomes (books : Books limits settings traffic)
    (handled : traffic.underWay = []) :
    (traffic.arrived.map (observed settings)).sum =
      traffic.trail.metrics.total (.dispatch "ok") +
        traffic.trail.metrics.total (.dispatch "rejected") +
        traffic.trail.metrics.total (.dispatch "unavailable") +
        traffic.trail.metrics.total (.dispatch "dropped") +
        traffic.unrecorded := by
  have counts := books.counts
    (.totals [.dispatch "ok", .dispatch "rejected", .dispatch "unavailable", .dispatch "dropped"])
    1 handled (fun _ => rfl) (fun job => rfl)
    (fun job answer => by
      rcases answer with ⟨(_ | _) | _, log⟩ <;> rfl)
  have nothing (delivery : Delivery) : (Handling.of settings delivery).ahead (.totals
      [.dispatch "ok", .dispatch "rejected", .dispatch "unavailable", .dispatch "dropped"]) = 0 := by
    rw [ahead_of, openingTrail]
    rcases Payload.validateBody settings.secret delivery.body with cause | request | request <;>
      simp [Measure.of, Measure.totals, refusedTrail, emptyTrail, readyTrail, acknowledgedTrail,
        Trail.counted]
  have offered := books.tallied.offered
  have finished := books.accounted.ended_unfinished.length_eq
  simp only [handled, length_submissions, List.map_nil, List.sum_nil] at offered
  simp only [Measure.totals_of, nothing, List.map_cons, List.map_nil, List.sum_cons, List.sum_nil,
    List.map_const', List.sum_replicate_nat, Nat.mul_zero] at counts
  rw [List.length_append] at finished
  unfold Traffic.unrecorded
  change _ = (traffic.arrived.map fun delivery => observed settings delivery).sum at offered
  rw [← offered]
  omega

/-! ### Stage events -/

def isOutcomeOf (traceId : String) (event : Tap.Event) : Bool :=
  decide (event.stage = .dispatch) && decide (event.traceId = some traceId)

def isReportOf (traceId : String) (event : Tap.Event) : Bool :=
  decide (event.stage = .normalizer) && decide (event.traceId = some traceId)

def outcomesOf (traceId : String) : Measure :=
  { weight := fun _ => 0, shows := isOutcomeOf traceId }

theorem outcomesOf_of (traceId : String) (trail : Trail) :
    (outcomesOf traceId).of trail = trail.tap.countP (isOutcomeOf traceId) := by
  simp [Measure.of, outcomesOf]

theorem Handling.Sound.ahead_outcomesOf {handling : Handling} (sound : handling.Sound settings)
    (traceId : String) : handling.ahead (outcomesOf traceId) = 0 := by
  have early : (outcomesOf traceId).of (.join handling.left) = 0 := by
    rw [outcomesOf_of, List.countP_eq_zero]
    intro event inside
    simp [isOutcomeOf, sound.early event inside]
  have last : (outcomesOf traceId).of acknowledgedTrail = 0 := rfl
  rw [Handling.ahead, early, last, ite_self]

/-- Each ended job has one outcome among the stage events, once the ended calls are recorded. -/
theorem Books.outcomesOf (books : Books limits settings traffic)
    (recorded : traffic.recordings = []) (traceId : String) :
    traffic.trail.tap.countP (isOutcomeOf traceId) =
      (Dispatch.ended traffic.dispatcher.history).countP (·.traceId = traceId) := by
  have balances := books.balances (Webhook.outcomesOf traceId)
  have underWay := sum_map_eq_zero traffic.underWay fun handling inside =>
    (books.truthful.sound handling inside).ahead_outcomesOf traceId
  have arrived := sum_map_eq_zero traffic.arrived fun delivery _ =>
    (Handling.sound_of settings delivery).ahead_outcomesOf traceId
  have reports : (traffic.reports.map fun report =>
      (Webhook.outcomesOf traceId).of (report.trail settings)).sum = 0 :=
    sum_map_eq_zero traffic.reports fun report _ => rfl
  have dropped (job : Dispatch.Job) :
      (Webhook.outcomesOf traceId).of (Dispatch.droppedTrail job) = 0 := rfl
  have ended (job : Dispatch.Job) (answer : SinkAnswer) :
      (Webhook.outcomesOf traceId).of (Dispatch.outcomeTrail job answer) =
        if job.traceId = traceId then 1 else 0 := by
    rw [outcomesOf_of]
    simp [Dispatch.outcomeTrail, isOutcomeOf, Dispatch.outcomeEvent]
  rw [Balances, recorded, underWay, arrived, reports, sum_ofHappening _ dropped ended,
    outcomesOf_of] at balances
  simp only [List.map_nil, List.sum_nil, List.map_const', List.sum_replicate_nat, Nat.mul_zero,
    Nat.add_zero, Nat.zero_add] at balances
  rw [balances]
  induction Dispatch.ended traffic.dispatcher.history with
  | nil => rfl
  | cons job rest ih =>
      rw [List.map_cons, List.sum_cons, List.countP_cons, ih, Nat.add_comm]
      simp only [decide_eq_true_eq]

structure Traffic.Idle (traffic : Traffic) : Prop where
  unfinished : traffic.dispatcher.queue.unfinished = []
  recordings : traffic.recordings = []

theorem Books.queued_of_idle (books : Books limits settings traffic)
    (idle : traffic.Idle) {traceId : String}
    (handled : ∀ handling ∈ traffic.underWay, handling.delivery.traceId ≠ traceId) :
    traffic.trail.tap.countP (isOutcomeOf traceId) =
      ((traffic.reports.filter (·.delivery.traceId = traceId)).map (·.tally.queued)).sum := by
  have accepted := books.accounted.ended_unfinished
  rw [idle.unfinished, List.append_nil] at accepted
  have none : (traffic.underWay.map (Handling.queuedFor traceId)).sum = 0 :=
    sum_map_eq_zero traffic.underWay fun handling inside => if_neg (handled handling inside)
  rw [books.outcomesOf idle.recordings, accepted.countP_eq, books.tallied.queued traceId, none,
    Nat.add_zero]
  induction traffic.reports with
  | nil => rfl
  | cons report rest ih =>
      rw [List.map_cons, List.sum_cons, ih]
      by_cases same : report.delivery.traceId = traceId
      · simp [Report.queuedFor, same]
      · simp [Report.queuedFor, same]

theorem Books.reports_eq (books : Books limits settings traffic)
    (traceId : String) :
    traffic.trail.tap.filter (isReportOf traceId) =
      (traffic.reports.filter (·.delivery.traceId = traceId)).map (Report.event settings) := by
  have apart : traffic.trail.tap.filter (isReportOf traceId) =
      (traffic.trail.tap.filter (·.stage = .normalizer)).filter (·.traceId = some traceId) := by
    rw [List.filter_filter]
    exact List.filter_congr fun event _ => Bool.and_comm _ _
  rw [apart, books.told.reports, List.filter_map]
  refine congrArg _ (List.filter_congr fun report _ => ?_)
  simp [Report.event, submittedEvent]

/-! ### The balance -/

/-- What a listener has seen of the deliveries of one name: a report of each that was accepted, which
tells how many of its updates were queued and dropped, and an outcome for each queued one. -/
def Sees (settings : Settings) (traffic : Traffic) (traceId : String) : Prop :=
  ∃ reports : List Report,
    traffic.seen.filter (isReportOf traceId) = reports.map (Report.event settings) ∧
    reports.length = traffic.arrived.countP (fun delivery =>
      accepts settings delivery && decide (delivery.traceId = traceId)) ∧
    (∀ report ∈ reports,
      (report.event settings).details.count = some (report.tally.queued + report.tally.dropped) ∧
      ∃ updates, (report.event settings).output.payload = .ofPairs [
        ("updates", updates), ("queued", .ofNat report.tally.queued),
        ("dropped", .ofNat report.tally.dropped)]) ∧
    (traffic.Idle → traffic.seen.countP (isOutcomeOf traceId) =
      (reports.map (·.tally.queued)).sum)

theorem Books.sees (books : Books limits settings traffic)
    (kept : traffic.kept = true) (looked : traffic.listener = traffic.hub.listen)
    {traceId : String}
    (handled : ∀ handling ∈ traffic.underWay, handling.delivery.traceId ≠ traceId) :
    Sees settings traffic traceId := by
  have seen : traffic.seen = traffic.trail.tap := by
    rw [books.told.seen kept, looked]
    exact List.take_length
  rw [Sees, seen]
  refine ⟨traffic.reports.filter (·.delivery.traceId = traceId), books.reports_eq traceId, ?_, ?_,
    fun idle => books.queued_of_idle idle handled⟩
  · have none : traffic.underWay.countP (fun handling =>
        handling.offers.isSome && decide (handling.delivery.traceId = traceId)) = 0 :=
      List.countP_eq_zero.mpr fun handling inside => by simp [handled handling inside]
    rw [← books.tallied.reported traceId, none, Nat.add_zero, List.countP_eq_length_filter]
  · intro report inside
    have truthful := books.truthful.reports report (List.mem_filter.mp inside).1
    refine ⟨?_, _, rfl⟩
    rw [truthful.tallied]
    exact congrArg some (List.length_map _)

/-- How the counts and the stage events add up. -/
structure AddsUp (settings : Settings) (traffic : Traffic) : Prop where
  arrivals : traffic.underWay = [] →
    traffic.trail.metrics.total (.ingress "accepted") +
        traffic.trail.metrics.total (.ingress "empty") +
        traffic.trail.metrics.total (.ingress "rejected") =
      traffic.arrived.length
  rejections : traffic.underWay = [] →
    traffic.trail.metrics.rejections = traffic.trail.metrics.total (.ingress "rejected")
  observations : traffic.underWay = [] →
    traffic.trail.metrics.total (.observations "wifi") +
        traffic.trail.metrics.total (.observations "bluetooth") =
      (traffic.arrived.map (observed settings)).sum
  outcomes : traffic.underWay = [] →
    (traffic.arrived.map (observed settings)).sum =
      traffic.trail.metrics.total (.dispatch "ok") +
        traffic.trail.metrics.total (.dispatch "rejected") +
        traffic.trail.metrics.total (.dispatch "unavailable") +
        traffic.trail.metrics.total (.dispatch "dropped") +
        traffic.unrecorded
  /-- A listener who was never too late and has looked last of all sees the same. -/
  events : traffic.kept = true → traffic.listener = traffic.hub.listen → ∀ traceId,
    (∀ handling ∈ traffic.underWay, handling.delivery.traceId ≠ traceId) →
    Sees settings traffic traceId

/-- However deliveries, the worker, the sink calls and their records interleave, and whatever the sink
answers, the counts and the stage events add up. -/
theorem counts_and_events_add_up (settings : Settings) (limits : Dispatch.Limits)
    (startable : limits.inFlight ≤ Dispatch.Limits.mostPermits) {first : Traffic}
    (created : Traffic.start? limits = some first) (actions : List Action) {traffic : Traffic}
    (ran : first.run? settings actions = some traffic) : AddsUp settings traffic := by
  have books : Books limits settings traffic :=
    Traffic.run?_induction Books.step ran (.of_start startable created)
  exact {
    arrivals := books.arrivals
    rejections := books.rejections
    observations := books.observations
    outcomes := books.outcomes
    events := fun kept looked traceId handled => books.sees kept looked handled }

private def plain : Settings :=
  { validator := "", secret := "s", path := "/", policy := .omitEmpty }

private def twoDevices : Delivery :=
  let device (name : String) := Json.Value.object [
    ("clientMac", .string name),
    ("location", .object [("lat", .string "1"), ("lng", .string "2")])]
  { traceId := "t", ingressTime := .zero false, normalizerTime := .zero false
    body := Text.Utf8.encode (Json.Value.text (.object [
      ("secret", .string "s"), ("version", .string "2.0"), ("type", .string "DevicesSeen"),
      ("data", .object [("observations", .array [device "a", device "b"])])])) }

private def crowded : List Action :=
  .arrive twoDevices :: List.replicate 11 (.proceed 0) ++
    [.worker .take, .worker .spawn, .finish 0 { result := .ok (), log := [] }, .record 0, .record 0,
      .look]

/-- With room for one, the first of two updates ends with the sink and the second is dropped. -/
theorem counts_and_events_add_up_of_crowded :
    ∃ first traffic, Traffic.start? ⟨1, 1⟩ = some first ∧
      first.run? plain crowded = some traffic ∧ AddsUp plain traffic ∧
      traffic.underWay = [] ∧ traffic.kept = true ∧ traffic.seen.length = 3 ∧
      traffic.trail.metrics.total (.dispatch "ok") = 1 ∧
      traffic.trail.metrics.total (.dispatch "dropped") = 1 := by
  have through : (Traffic.start? ⟨1, 1⟩).map (fun first =>
      (first.run? plain crowded).map fun traffic =>
        (traffic.underWay.isEmpty, traffic.kept, traffic.seen.length,
          traffic.trail.metrics.total (.dispatch "ok"),
          traffic.trail.metrics.total (.dispatch "dropped"))) =
      some (some (true, true, 3, 1, 1)) := by
    decide +kernel
  obtain ⟨first, created, through⟩ := Option.map_eq_some_iff.mp through
  obtain ⟨traffic, ran, through⟩ := Option.map_eq_some_iff.mp through
  simp only [Prod.mk.injEq, List.isEmpty_iff] at through
  exact ⟨first, traffic, created, ran,
    counts_and_events_add_up plain ⟨1, 1⟩ (by decide) created crowded ran, through⟩

end PresenceGateway.Webhook
