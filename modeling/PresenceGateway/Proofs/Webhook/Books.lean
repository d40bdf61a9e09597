import Mathlib.Algebra.BigOperators.Group.List.Basic
import Mathlib.Algebra.GroupWithZero.Nat
import PresenceGateway.Proofs.Dispatch.Accounting
import PresenceGateway.Proofs.Tap.Streams
import PresenceGateway.Proofs.Webhook.Traffic
/-!
The books of the gateway, kept over a whole run. What was left behind, and what deliveries and ended
sink calls still have to leave, is what all that happened is to leave. Every offer was answered once
or is still ahead. What a listener sees is what was published.
-/
namespace PresenceGateway

/-! ### Counting what was left behind -/

namespace Metrics

def rejections (metrics : Metrics) : Nat :=
  (metrics.map fun entry => match entry.1 with
    | .rejected _ => entry.2
    | _ => 0).sum

end Metrics

/-- What is counted of what was left behind: how much each count weighs, and which events count. -/
structure Measure where
  weight : Metric → Nat
  shows : Tap.Event → Bool

section Sums

variable {Item : Type} (before after : List Item) (item : Item)

theorem sum_map_eq_zero (items : List Item) {amount : Item → Nat}
    (none : ∀ item ∈ items, amount item = 0) : (items.map amount).sum = 0 := by
  rw [List.map_congr_left none, List.map_const', List.sum_replicate_nat, Nat.mul_zero]

theorem sum_map_middle (amount : Item → Nat) :
    ((before ++ item :: after).map amount).sum =
      ((before ++ after).map amount).sum + amount item := by
  rw [(List.perm_middle.map amount).sum_eq, List.map_cons, List.sum_cons, Nat.add_comm]

theorem countP_middle (passes : Item → Bool) :
    (before ++ item :: after).countP passes =
      (before ++ after).countP passes + if passes item then 1 else 0 := by
  rw [List.perm_middle.countP_eq, List.countP_cons]

end Sums

namespace Measure

variable (measure : Measure)

def of (trail : Trail) : Nat :=
  (trail.metrics.map fun entry => measure.weight entry.1 * entry.2).sum +
    trail.tap.countP measure.shows

theorem of_empty : measure.of .empty = 0 := rfl

theorem of_append (first second : Trail) :
    measure.of (first ++ second) = measure.of first + measure.of second := by
  simp only [of, Trail.metrics_append, Trail.tap_append, List.map_append, List.sum_append,
    List.countP_append]
  omega

end Measure

theorem Metrics.total_eq_sum (metrics : Metrics) (metric : Metric) :
    metrics.total metric =
      (metrics.map fun entry => if entry.1 = metric then entry.2 else 0).sum := by
  induction metrics with
  | nil => rfl
  | cons entry rest ih => rw [Metrics.total_cons, List.map_cons, List.sum_cons, ih]

def Measure.totals (listed : List Metric) : Measure :=
  { weight := fun metric => listed.count metric, shows := fun _ => false }

theorem Measure.totals_of (listed : List Metric) (trail : Trail) :
    (totals listed).of trail = (listed.map trail.metrics.total).sum := by
  have none : trail.tap.countP (fun _ => false) = 0 := by simp
  rw [of, totals, none, Nat.add_zero]
  induction listed with
  | nil => simp
  | cons metric rest ih =>
      rw [List.map_cons, List.sum_cons, ← ih, Metrics.total_eq_sum, ← List.sum_map_add]
      refine congrArg List.sum (List.map_congr_left fun entry _ => ?_)
      by_cases same : entry.1 = metric
      · simp [same, Nat.add_mul, Nat.add_comm]
      · simp [same, Ne.symm same]

def Measure.rejections : Measure :=
  { weight := fun metric => match metric with
      | .rejected _ => 1
      | _ => 0
    shows := fun _ => false }

theorem Measure.rejections_of (trail : Trail) :
    rejections.of trail = trail.metrics.rejections := by
  have none : trail.tap.countP (fun _ => false) = 0 := by simp
  rw [of, rejections, none, Nat.add_zero]
  refine congrArg List.sum (List.map_congr_left fun entry _ => ?_)
  cases entry.1 with
  | rejected reason => exact Nat.one_mul _
  | ingress | observations | dispatch | refresh | acknowledged => exact Nat.zero_mul _

namespace Webhook

/-! ### What is left behind in the end -/

variable {settings : Settings} {traffic next : Traffic} (measure : Measure)

/-- What a delivery under way leaves without the answers to its offers and its report. -/
def Handling.ahead (handling : Handling) : Nat :=
  measure.of (.join handling.left) +
    if handling.offers.isSome then measure.of acknowledgedTrail else 0

def Recording.ahead (recording : Recording) : Nat :=
  (if recording.counted then 0 else measure.of recording.counts) + measure.of recording.shows

def ofHappening : Dispatch.Happening → Nat
  | .answered job (.error .full) => measure.of (Dispatch.droppedTrail job)
  | .ended job result => measure.of (Dispatch.outcomeTrail job { result, log := [] })
  | _ => 0

/-- What was left behind and what is still ahead is what all that happened is to leave. -/
def Balances (settings : Settings) (traffic : Traffic) : Prop :=
  measure.of traffic.trail + (traffic.underWay.map (Handling.ahead measure)).sum +
      (traffic.recordings.map (Recording.ahead measure)).sum =
    (traffic.arrived.map fun delivery => (Handling.of settings delivery).ahead measure).sum +
      (traffic.dispatcher.history.map (ofHappening measure)).sum +
      (traffic.reports.map fun report => measure.of (report.trail settings)).sum

theorem of_answeredTrail (delivery : Delivery) (job : Dispatch.Job) (queue : Dispatch.Queue) :
    measure.of (answeredTrail delivery (Dispatch.submit job queue).2.2
        (Dispatch.submit job queue).1) =
      ofHappening measure (.answered job (Dispatch.submit job queue).1) := by
  unfold Dispatch.submit
  cases queue.submit job with
  | ok queue => rfl
  | error refusal => cases refusal <;> rfl

theorem ahead_fresh (job : Dispatch.Job) (answer : SinkAnswer) :
    Recording.ahead measure { job, answer, counted := false } =
      ofHappening measure (.ended job answer.result) := by
  have whole := measure.of_append
    (Recording.counts { job, answer, counted := false })
    (Recording.shows { job, answer, counted := false })
  rw [Recording.counts_append_shows] at whole
  exact whole.symm

theorem balances_step (step : Traffic.Step settings traffic next)
    (balances : Balances measure settings traffic) : Balances measure settings next := by
  unfold Balances at balances ⊢
  cases step with
  | arrive delivery =>
      simp only [sum_map_middle, List.append_nil]
      omega
  | leave split next =>
      rw [split] at balances
      simp only [sum_map_middle, Handling.ahead, next, Trail.join_cons, Measure.of_append]
        at balances ⊢
      omega
  | offer split nothing offers shared =>
      rw [split] at balances
      simp only [sum_map_middle, List.append_nil, Handling.ahead, nothing, offers, Trail.join_nil,
        Trail.join_parts, Measure.of_empty, of_answeredTrail, Option.isSome_some, if_true]
        at balances ⊢
      omega
  | report split nothing offers =>
      rw [split] at balances
      simp only [sum_map_middle, List.append_nil, Handling.ahead, nothing, offers, Trail.join_nil,
        Trail.join_parts, Measure.of_empty, Measure.of_append, Option.isSome_some,
        Option.isSome_none, if_true, Bool.false_eq_true, if_false] at balances ⊢
      omega
  | done split nothing offers =>
      rw [split] at balances
      simp only [sum_map_middle, Handling.ahead, nothing, offers, Trail.join_nil,
        Measure.of_empty, Option.isSome_none, Bool.false_eq_true, if_false] at balances
      exact balances
  | work offers ends moved =>
      rcases Dispatch.System.history_of_own offers ends moved with same | ⟨job, more⟩
      · rw [same]
        exact balances
      · rw [more, sum_map_middle, List.append_nil]
        exact balances
  | finish running moved =>
      rw [Dispatch.System.history_of_finish running moved]
      simp only [sum_map_middle, List.append_nil, ahead_fresh]
      omega
  | @count before after recording split uncounted =>
      have same : Recording.ahead measure { recording with counted := true } =
          0 + measure.of recording.shows := rfl
      rw [split] at balances
      simp only [sum_map_middle, same, Measure.of_append] at balances ⊢
      rw [Recording.ahead, uncounted, if_neg Bool.false_ne_true] at balances
      omega
  | tell split counted =>
      rw [split] at balances
      simp only [sum_map_middle, Recording.ahead, counted, Measure.of_append, if_true]
        at balances ⊢
      omega
  | look => exact balances

/-! ### What becomes of the offers -/

def Handling.jobs (handling : Handling) : List Dispatch.Job :=
  match handling.offers with
  | some offers => offers.jobs
  | none => []

def Handling.tally (handling : Handling) : Tally :=
  match handling.offers with
  | some offers => offers.tally
  | none => { queued := 0, dropped := 0 }

def accepts (settings : Settings) (delivery : Delivery) : Bool :=
  match Payload.validateBody settings.secret delivery.body with
  | .ok (.ready _) => true
  | _ => false

/-- Every observation of an accepted payload is still to be offered or was counted once, and only the
report tells the counts. -/
structure Handling.Sound (settings : Settings) (handling : Handling) : Prop where
  early : ∀ event ∈ (Trail.join handling.left).tap, event.stage = .ingress
  accepted : ∀ offers, handling.offers = some offers →
    Payload.validateBody settings.secret handling.delivery.body = .ok (.ready offers.request)
  tallied : ∀ offers, handling.offers = some offers →
    offers.tally.queued + offers.tally.dropped + offers.jobs.length =
      offers.request.observations.length
  traced : ∀ job ∈ handling.jobs, job.traceId = handling.delivery.traceId

structure Report.Truthful (settings : Settings) (report : Report) : Prop where
  accepted : Payload.validateBody settings.secret report.delivery.body = .ok (.ready report.request)
  tallied : report.tally.queued + report.tally.dropped = report.request.observations.length

theorem Handling.sound_of (settings : Settings) (delivery : Delivery) :
    (Handling.of settings delivery).Sound settings := by
  have validated := check_fst settings delivery
  unfold Handling.of
  generalize check settings delivery = checked at validated ⊢
  rcases checked with ⟨cause | request | request, log⟩
  · refine ⟨?_, by simp, by simp, by simp [Handling.jobs]⟩
    simp [Trail.join_append, refusedTrail, refusedEvent, acknowledgedTrail, Trail.counted, Trail.empty]
  · refine ⟨?_, by simp, by simp, by simp [Handling.jobs]⟩
    simp [Trail.join_append, emptyTrail, acceptedEvent, acknowledgedTrail, Trail.counted, Trail.empty]
  · refine ⟨?_, ?_, ?_, ?_⟩
    · simp [Trail.join_append, readyTrail, acceptedEvent, Trail.empty]
    · rintro _ ⟨⟩
      exact validated.symm
    · rintro _ ⟨⟩
      simp [jobsOf]
    · simp [Handling.jobs, jobsOf]

theorem jobs_of (settings : Settings) (delivery : Delivery) :
    (Handling.of settings delivery).jobs = submissions settings delivery := by
  unfold Handling.of Handling.jobs submissions
  rw [← check_fst]
  rcases check settings delivery with ⟨cause | request | request, log⟩ <;> rfl

theorem tally_of (settings : Settings) (delivery : Delivery) :
    (Handling.of settings delivery).tally = { queued := 0, dropped := 0 } := by
  unfold Handling.of Handling.tally
  rcases check settings delivery with ⟨cause | request | request, log⟩ <;> rfl

theorem isSome_offers_of (settings : Settings) (delivery : Delivery) :
    (Handling.of settings delivery).offers.isSome = accepts settings delivery := by
  unfold Handling.of accepts
  rw [← check_fst]
  rcases check settings delivery with ⟨cause | request | request, log⟩ <;> rfl

theorem delivery_of (settings : Settings) (delivery : Delivery) :
    (Handling.of settings delivery).delivery = delivery := by
  unfold Handling.of
  rcases check settings delivery with ⟨cause | request | request, log⟩ <;> rfl

/-- Every delivery under way is sound, and every report true. -/
structure Truthful (settings : Settings) (traffic : Traffic) : Prop where
  sound : ∀ handling ∈ traffic.underWay, handling.Sound settings
  reports : ∀ report ∈ traffic.reports, report.Truthful settings

theorem early_answeredTrail (delivery : Delivery) (job : Dispatch.Job) (queue : Dispatch.Queue) :
    (answeredTrail delivery (Dispatch.submit job queue).2.2
      (Dispatch.submit job queue).1).tap = [] := by
  unfold Dispatch.submit
  cases queue.submit job with
  | ok queue => rfl
  | error refusal => cases refusal <;> rfl

theorem tally_count (tally : Tally) (answer : Except Dispatch.Refusal Unit) :
    (tally.count answer).queued + (tally.count answer).dropped =
      tally.queued + tally.dropped + 1 := by
  cases answer with
  | ok _ => exact Nat.add_right_comm _ _ _
  | error refusal => rfl

/-- What holds of all but one item, and of another in its place. -/
theorem forall_mem_replaced {Item : Type} {holds : Item → Prop} {before after : List Item}
    {item other : Item} (all : ∀ each ∈ before ++ item :: after, holds each) (new : holds other) :
    ∀ each ∈ before ++ other :: after, holds each := by
  simp only [List.mem_append, List.mem_cons] at all ⊢
  rintro each (early | rfl | late)
  · exact all each (.inl early)
  · exact new
  · exact all each (.inr (.inr late))

theorem truthful_step (step : Traffic.Step settings traffic next)
    (truthful : Truthful settings traffic) : Truthful settings next := by
  obtain ⟨sound, reports⟩ := truthful
  cases step with
  | arrive delivery =>
      refine ⟨fun handling inside => ?_, reports⟩
      rcases List.mem_append.mp inside with known | new
      · exact sound handling known
      · exact List.mem_singleton.mp new ▸ Handling.sound_of settings delivery
  | leave split next =>
      rw [split] at sound
      obtain ⟨early, accepted, tallied, traced⟩ := sound _ List.mem_append_cons_self
      refine ⟨forall_mem_replaced sound ⟨fun event inside => ?_, accepted, tallied, traced⟩, reports⟩
      rw [next] at early
      exact early event (List.mem_append_right _ inside)
  | offer split nothing offers shared =>
      rw [split] at sound
      obtain ⟨early, accepted, tallied, traced⟩ := sound _ List.mem_append_cons_self
      refine ⟨forall_mem_replaced sound ⟨?_, ?_, ?_, ?_⟩, reports⟩
      · intro event inside
        rw [Trail.join_parts, early_answeredTrail] at inside
        cases inside
      · rintro _ ⟨⟩
        have known := accepted _ offers
        exact known
      · rintro _ ⟨⟩
        have whole := tallied _ offers
        dsimp only [List.length_cons] at whole ⊢
        rw [tally_count]
        omega
      · intro job inside
        rw [Handling.jobs, offers] at traced
        exact traced job (List.mem_cons_of_mem _ inside)
  | report split nothing offers =>
      rw [split] at sound
      obtain ⟨early, accepted, tallied, traced⟩ := sound _ List.mem_append_cons_self
      refine ⟨forall_mem_replaced sound ⟨?_, by simp, by simp, by simp [Handling.jobs]⟩, ?_⟩
      · intro event inside
        cases inside
      · intro report inside
        rcases List.mem_append.mp inside with known | new
        · exact reports report known
        · exact List.mem_singleton.mp new ▸ ⟨accepted _ offers, tallied _ offers⟩
  | done split nothing offers =>
      rw [split] at sound
      refine ⟨fun handling inside => sound handling ?_, reports⟩
      rcases List.mem_append.mp inside with early | late
      · exact List.mem_append_left _ early
      · exact List.mem_append_right _ (List.mem_cons_of_mem _ late)
  | work offers ends moved => exact ⟨sound, reports⟩
  | finish running moved => exact ⟨sound, reports⟩
  | count split uncounted => exact ⟨sound, reports⟩
  | tell split counted => exact ⟨sound, reports⟩
  | look => exact ⟨sound, reports⟩

/-! ### Tallies -/

def dropped (history : List Dispatch.Happening) : List Dispatch.Job :=
  history.filterMap fun
    | .answered job (.error .full) => some job
    | _ => none

@[simp] theorem dropped_append (first second : List Dispatch.Happening) :
    dropped (first ++ second) = dropped first ++ dropped second :=
  List.filterMap_append

def Handling.queuedFor (traceId : String) (handling : Handling) : Nat :=
  if handling.delivery.traceId = traceId then handling.tally.queued else 0

def Report.queuedFor (traceId : String) (report : Report) : Nat :=
  if report.delivery.traceId = traceId then report.tally.queued else 0

section Tallies

variable {arrived : List Delivery} {underWay before after : List Handling} {reports : List Report}
variable {history : List Dispatch.Happening} {handling : Handling} {request : Request}
variable {tally : Tally} {left : List Trail}

/-- Every offer was answered once or is still ahead, and what was accepted is in the tallies. -/
structure Tallied (settings : Settings) (arrived : List Delivery) (underWay : List Handling)
    (reports : List Report) (history : List Dispatch.Happening) : Prop where
  offered : (Dispatch.accepted history).length + (dropped history).length +
      (underWay.map fun handling => handling.jobs.length).sum =
    (arrived.map fun delivery => (submissions settings delivery).length).sum
  queued : ∀ traceId, (Dispatch.accepted history).countP (·.traceId = traceId) =
    (reports.map (Report.queuedFor traceId)).sum +
      (underWay.map (Handling.queuedFor traceId)).sum
  reported : ∀ traceId, reports.countP (·.delivery.traceId = traceId) +
      underWay.countP (fun handling =>
        handling.offers.isSome && decide (handling.delivery.traceId = traceId)) =
    arrived.countP fun delivery =>
      accepts settings delivery && decide (delivery.traceId = traceId)

theorem Tallied.arrive (tallied : Tallied settings arrived underWay reports history)
    (delivery : Delivery) :
    Tallied settings (arrived ++ [delivery]) (underWay ++ [Handling.of settings delivery]) reports
      history := by
  obtain ⟨offered, queued, reported⟩ := tallied
  refine ⟨?_, fun traceId => ?_, fun traceId => ?_⟩
  · simp only [sum_map_middle, List.append_nil, jobs_of]
    omega
  · rw [sum_map_middle, List.append_nil, Handling.queuedFor, tally_of, ite_self]
    exact queued traceId
  · have known := reported traceId
    simp only [List.countP_append, List.countP_cons, List.countP_nil, isSome_offers_of,
      delivery_of] at known ⊢
    omega

theorem Tallied.leave
    (tallied : Tallied settings arrived (before ++ handling :: after) reports history) :
    Tallied settings arrived (before ++ { handling with left } :: after) reports history := by
  obtain ⟨offered, queued, reported⟩ := tallied
  simp only [sum_map_middle, countP_middle] at offered queued reported
  refine ⟨?_, ?_, ?_⟩ <;> simp only [sum_map_middle, countP_middle]
  · exact offered
  · exact queued
  · exact reported

theorem Tallied.offer {job : Dispatch.Job} {jobs : List Dispatch.Job}
    {answer : Except Dispatch.Refusal Unit}
    (tallied : Tallied settings arrived (before ++ handling :: after) reports history)
    (offers : handling.offers = some { request, jobs := job :: jobs, tally })
    (answers : answer = .ok () ∨ answer = .error .full)
    (traced : job.traceId = handling.delivery.traceId) :
    Tallied settings arrived
      (before ++ { handling with
        left, offers := some { request, jobs, tally := tally.count answer } } :: after)
      reports (history ++ [.answered job answer]) := by
  obtain ⟨offered, queued, reported⟩ := tallied
  refine ⟨?_, fun traceId => ?_, fun traceId => ?_⟩
  · simp only [sum_map_middle, Handling.jobs, offers, List.length_cons] at offered ⊢
    rcases answers with rfl | rfl <;>
      · simp only [Dispatch.accepted_append, dropped_append, List.length_append]
        simp only [Dispatch.accepted, dropped, List.filterMap_cons, List.filterMap_nil,
          List.length_cons, List.length_nil] at offered ⊢
        omega
  · have known := queued traceId
    simp only [sum_map_middle, Handling.queuedFor, Handling.tally, offers] at known ⊢
    have more : (Dispatch.accepted [Dispatch.Happening.answered job answer]).countP
          (·.traceId = traceId) + (if handling.delivery.traceId = traceId then tally.queued else 0) =
        if handling.delivery.traceId = traceId then (tally.count answer).queued else 0 := by
      rcases answers with rfl | rfl <;> by_cases same : handling.delivery.traceId = traceId <;>
        simp [Dispatch.accepted, Tally.count, traced, same, Nat.add_comm]
    rw [Dispatch.accepted_append, List.countP_append]
    omega
  · have known := reported traceId
    simp only [countP_middle, offers, Option.isSome_some] at known ⊢
    exact known

theorem Tallied.report
    (tallied : Tallied settings arrived (before ++ handling :: after) reports history)
    (offers : handling.offers = some { request, jobs := [], tally }) :
    Tallied settings arrived (before ++ { handling with left, offers := none } :: after)
      (reports ++ [{ delivery := handling.delivery, request, tally }]) history := by
  obtain ⟨offered, queued, reported⟩ := tallied
  refine ⟨?_, fun traceId => ?_, fun traceId => ?_⟩
  · simp only [sum_map_middle, Handling.jobs, offers] at offered ⊢
    exact offered
  · have known := queued traceId
    simp only [sum_map_middle, List.append_nil, Handling.queuedFor, Report.queuedFor, Handling.tally,
      offers, ite_self] at known ⊢
    omega
  · have known := reported traceId
    simp only [countP_middle, List.append_nil, offers, Option.isSome_some, Option.isSome_none,
      Bool.true_and, Bool.false_and, decide_eq_true_eq, Bool.false_eq_true, if_false] at known ⊢
    omega

theorem Tallied.done
    (tallied : Tallied settings arrived (before ++ handling :: after) reports history)
    (offers : handling.offers = none) :
    Tallied settings arrived (before ++ after) reports history := by
  obtain ⟨offered, queued, reported⟩ := tallied
  have noJobs : handling.jobs = [] := by rw [Handling.jobs, offers]
  have noTally (traceId : String) : handling.queuedFor traceId = 0 := by
    rw [Handling.queuedFor, Handling.tally, offers, ite_self]
  refine ⟨?_, fun traceId => ?_, fun traceId => ?_⟩
  · rw [sum_map_middle, noJobs] at offered
    exact offered
  · have known := queued traceId
    rw [sum_map_middle, noTally] at known
    exact known
  · have known := reported traceId
    rw [countP_middle, offers] at known
    exact known

/-- What has no answer to an offer in it does not matter. -/
theorem Tallied.happen {more : List Dispatch.Happening}
    (tallied : Tallied settings arrived underWay reports history)
    (unanswered : Dispatch.accepted more = [] ∧ dropped more = []) :
    Tallied settings arrived underWay reports (history ++ more) := by
  obtain ⟨offered, queued, reported⟩ := tallied
  refine ⟨?_, ?_, reported⟩
  · rwa [Dispatch.accepted_append, dropped_append, unanswered.1, unanswered.2, List.append_nil,
      List.append_nil]
  · rwa [Dispatch.accepted_append, unanswered.1, List.append_nil]

end Tallies

def Traffic.Tallied (settings : Settings) (traffic : Traffic) : Prop :=
  Webhook.Tallied settings traffic.arrived traffic.underWay traffic.reports
    traffic.dispatcher.history

theorem submit_answers {limits : Dispatch.Limits} {system : Dispatch.System}
    (accounted : Dispatch.Accounted limits system) (shared : system.handles ≠ 0)
    (job : Dispatch.Job) :
    (Dispatch.submit job system.queue).1 = .ok () ∨
      (Dispatch.submit job system.queue).1 = .error .full := by
  obtain ⟨held, working⟩ := accounted.working shared
  by_cases room : system.queue.waiting.length < system.queue.limits.capacity
  · rw [Dispatch.submit_of_room working room]
    exact .inl rfl
  · rw [Dispatch.submit_of_no_room working room]
    exact .inr rfl

theorem tallied_step {limits : Dispatch.Limits}
    (accounted : Dispatch.Accounted limits traffic.dispatcher)
    (truthful : Truthful settings traffic) (step : Traffic.Step settings traffic next)
    (tallied : traffic.Tallied settings) : next.Tallied settings := by
  unfold Traffic.Tallied at tallied ⊢
  cases step with
  | arrive delivery => exact tallied.arrive delivery
  | leave split next =>
      rw [split] at tallied
      exact tallied.leave
  | offer split nothing offers shared =>
      have traced := (truthful.sound _ (split ▸ List.mem_append_cons_self)).traced
      rw [Handling.jobs, offers] at traced
      rw [split] at tallied
      exact tallied.offer offers (submit_answers accounted shared _) (traced _ List.mem_cons_self)
  | report split nothing offers =>
      rw [split] at tallied
      exact tallied.report offers
  | done split nothing offers =>
      rw [split] at tallied
      exact tallied.done offers
  | work offers ends moved =>
      rcases Dispatch.System.history_of_own offers ends moved with same | ⟨job, more⟩
      · rw [same]
        exact tallied
      · rw [more]
        exact tallied.happen ⟨rfl, rfl⟩
  | finish running moved =>
      rw [Dispatch.System.history_of_finish running moved]
      exact tallied.happen ⟨rfl, rfl⟩
  | count split uncounted => exact tallied
  | tell split counted => exact tallied
  | look => exact tallied

/-! ### What a listener sees -/

section Listener

variable {trail more : Trail} {reports : List Report} {listener : Tap.Listener}
variable {seen : List Tap.Event} {kept : Bool}

/-- The reports of the trail are those that were made, and a listener who was never too late has seen
what was published until he looked last. -/
structure Told (settings : Settings) (trail : Trail) (reports : List Report)
    (listener : Tap.Listener) (seen : List Tap.Event) (kept : Bool) : Prop where
  reports : trail.tap.filter (·.stage = .normalizer) = reports.map (Report.event settings)
  position : listener.position ≤ trail.tap.length
  seen : kept = true → seen = trail.tap.take listener.position

theorem Told.extend (told : Told settings trail reports listener seen kept) (added : List Report)
    (shown : more.tap.filter (·.stage = .normalizer) = added.map (Report.event settings)) :
    Told settings (trail ++ more) (reports ++ added) listener seen kept := by
  refine ⟨?_, ?_, fun inTime => ?_⟩
  · rw [Trail.tap_append, List.filter_append, told.reports, shown, List.map_append]
  · rw [Trail.tap_append, List.length_append]
    exact Nat.le_add_right_of_le told.position
  · rw [Trail.tap_append, List.take_append_of_le_length told.position]
    exact told.seen inTime

theorem Told.silent (told : Told settings trail reports listener seen kept)
    (silent : ∀ event ∈ more.tap, event.stage ≠ .normalizer) :
    Told settings (trail ++ more) reports listener seen kept := by
  have none : more.tap.filter (·.stage = .normalizer) = [] :=
    List.filter_eq_nil_iff.mpr fun event inside => by simpa using silent event inside
  have extended := told.extend [] none
  rwa [List.append_nil] at extended

theorem Told.look (told : Told settings trail reports listener seen kept) :
    let hub : Tap.Hub := { published := trail.tap }
    Told settings trail reports hub.listen (seen ++ (hub.receive listener).1)
      (kept && decide (hub.published.length - listener.position ≤ Tap.Hub.capacity)) := by
  refine ⟨told.reports, Nat.le_refl _, fun inTime => ?_⟩
  obtain ⟨before, behind⟩ := Bool.and_eq_true_iff.mp inTime
  rw [Tap.Hub.receive_of_near (of_decide_eq_true behind), told.seen before, List.take_append_drop]
  exact (List.take_length ..).symm

end Listener

def Traffic.Told (settings : Settings) (traffic : Traffic) : Prop :=
  Webhook.Told settings traffic.trail traffic.reports traffic.listener traffic.seen traffic.kept

theorem told_step (truthful : Truthful settings traffic) (step : Traffic.Step settings traffic next)
    (told : traffic.Told settings) : next.Told settings := by
  unfold Traffic.Told at told ⊢
  cases step with
  | arrive delivery => exact told
  | leave split next =>
      have early := (truthful.sound _ (split ▸ List.mem_append_cons_self)).early
      rw [next, Trail.join_cons] at early
      apply told.silent
      intro event inside
      rw [early event (List.mem_append_left _ inside)]
      exact Tap.Stage.noConfusion
  | offer split nothing offers shared => exact told
  | report split nothing offers => exact told.extend [_] rfl
  | done split nothing offers => exact told
  | work offers ends moved => exact told
  | finish running moved => exact told
  | count split uncounted =>
      apply told.silent
      intro event inside
      cases inside
  | tell split counted =>
      apply told.silent
      intro event inside
      obtain rfl := List.mem_singleton.mp inside
      exact Tap.Stage.noConfusion
  | look => exact told.look

/-! ### The books of a run -/

structure Books (limits : Dispatch.Limits) (settings : Settings) (traffic : Traffic) : Prop where
  accounted : Dispatch.Accounted limits traffic.dispatcher
  truthful : Truthful settings traffic
  tallied : traffic.Tallied settings
  told : traffic.Told settings
  balances : ∀ measure, Balances measure settings traffic

theorem accounted_step {limits : Dispatch.Limits}
    (accounted : Dispatch.Accounted limits traffic.dispatcher)
    (step : Traffic.Step settings traffic next) : Dispatch.Accounted limits next.dispatcher := by
  cases step with
  | offer split nothing offers shared => exact accounted.submit shared _
  | work offers ends moved => exact accounted.next moved
  | finish running moved => exact accounted.next moved
  | arrive | leave | report | done | count | tell | look => exact accounted

theorem Books.step {limits : Dispatch.Limits} (step : Traffic.Step settings traffic next)
    (books : Books limits settings traffic) : Books limits settings next where
  accounted := accounted_step books.accounted step
  truthful := truthful_step step books.truthful
  tallied := tallied_step books.accounted books.truthful step books.tallied
  told := told_step books.truthful step books.told
  balances := fun measure => balances_step measure step (books.balances measure)

theorem Books.of_start {limits : Dispatch.Limits} {first : Traffic}
    (startable : limits.inFlight ≤ Dispatch.Limits.mostPermits)
    (created : Traffic.start? limits = some first) : Books limits settings first := by
  obtain ⟨dispatcher, started, rfl⟩ := Option.map_eq_some_iff.mp created
  have fresh : dispatcher.history = [] := by
    obtain ⟨queue, _, rfl⟩ := Option.map_eq_some_iff.mp started
    rfl
  refine ⟨Dispatch.Accounted.of_start startable started, ⟨by simp, by simp⟩, ?_, ?_, ?_⟩
  · refine ⟨?_, fun traceId => ?_, fun traceId => rfl⟩
    · rw [fresh]
      rfl
    · rw [fresh]
      rfl
  · exact ⟨rfl, Nat.le_refl _, fun _ => rfl⟩
  · intro measure
    rw [Balances, fresh]
    rfl

end Webhook

end PresenceGateway
