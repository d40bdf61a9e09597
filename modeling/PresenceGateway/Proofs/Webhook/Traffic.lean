import PresenceGateway.Proofs.Webhook.Submissions
/-!
The gateway while several deliveries are under way and the worker and the sink go on. A delivery leaves
counts, log events and stage events behind one at a time, and offers its jobs one at a time; an ended
sink call counts its outcome first and shows it later. Anything may happen in between. A delivery that
is not interrupted is handled as `Webhook.ingest` handles it.
-/
namespace PresenceGateway

/-! ### Leaving a trail one part at a time -/

namespace Trail

def parts (trail : Trail) : List Trail :=
  trail.metrics.map (fun entry => counted entry.1 entry.2) ++
    (trail.log.map logged ++ trail.tap.map shown)

def join (parts : List Trail) : Trail :=
  parts.foldr (· ++ ·) empty

@[simp] theorem join_nil : join [] = empty := rfl

@[simp] theorem join_cons (part : Trail) (rest : List Trail) :
    join (part :: rest) = part ++ join rest := rfl

theorem join_append (first second : List Trail) :
    join (first ++ second) = join first ++ join second := by
  induction first with
  | nil => rfl
  | cons part rest ih =>
      rw [List.cons_append, join_cons, join_cons, ih, append_assoc]

theorem join_map_counted (metrics : Metrics) :
    join (metrics.map fun entry => counted entry.1 entry.2) = { empty with metrics } := by
  induction metrics with
  | nil => rfl
  | cons entry rest ih =>
      rw [List.map_cons, join_cons, ih]
      rfl

theorem join_map_logged (log : List Log.Event) : join (log.map logged) = { empty with log } := by
  induction log with
  | nil => rfl
  | cons event rest ih =>
      rw [List.map_cons, join_cons, ih]
      rfl

theorem join_map_shown (tap : List Tap.Event) : join (tap.map shown) = { empty with tap } := by
  induction tap with
  | nil => rfl
  | cons event rest ih =>
      rw [List.map_cons, join_cons, ih]
      rfl

@[simp] theorem join_parts (trail : Trail) : join trail.parts = trail := by
  rw [parts, join_append, join_append, join_map_counted, join_map_logged, join_map_shown]
  change append _ (append _ _) = _
  simp [append, empty]

end Trail

namespace Webhook

/-! ### What is under way -/

/-- What an accepted delivery still has to offer, and what became of the rest. -/
structure Offers where
  request : Request
  jobs : List Dispatch.Job
  tally : Tally

/-- A delivery under way: what it leaves behind before it goes on, and what it offers then. -/
structure Handling where
  delivery : Delivery
  left : List Trail
  offers : Option Offers

structure Report where
  delivery : Delivery
  request : Request
  tally : Tally

def Report.event (settings : Settings) (report : Report) : Tap.Event :=
  submittedEvent report.delivery report.request (report.request.updates settings.policy) report.tally

def Report.trail (settings : Settings) (report : Report) : Trail :=
  .logged (submittedLog report.delivery report.tally) ++ .shown (report.event settings)

def acknowledgedTrail : Trail := .counted (.acknowledged "post") 1

def Handling.of (settings : Settings) (delivery : Delivery) : Handling :=
  let (result, log) := check settings delivery
  let before := Trail.parts { Trail.empty with log }
  match result with
  | .error cause => {
      delivery
      left := before ++ (refusedTrail delivery cause).parts ++ acknowledgedTrail.parts
      offers := none }
  | .ok (.empty request) => {
      delivery
      left := before ++ (emptyTrail delivery request).parts ++ acknowledgedTrail.parts
      offers := none }
  | .ok (.ready request) => {
      delivery
      left := before ++ (readyTrail delivery request).parts
      offers := some {
        request
        jobs := jobsOf settings delivery request
        tally := { queued := 0, dropped := 0 } } }

def Tally.count (tally : Tally) : Except Dispatch.Refusal Unit → Tally
  | .ok _ => { tally with queued := tally.queued + 1 }
  | .error _ => { tally with dropped := tally.dropped + 1 }

def answeredTrail (delivery : Delivery) (trail : Trail) : Except Dispatch.Refusal Unit → Trail
  | .error .closed => trail ++ .logged (goneLog delivery)
  | _ => trail

def Delivery.job (delivery : Delivery) (update : Update) : Dispatch.Job :=
  { update, traceId := delivery.traceId }

theorem submitAll_cons {State : Type} (submit : Dispatch.Submission State) (delivery : Delivery)
    (update : Update) (rest : List Update) (queue : State) (tally : Tally) :
    submitAll submit delivery (update :: rest) queue tally =
      let answered := submit (delivery.job update) queue
      let later := submitAll submit delivery rest answered.2.1 (tally.count answered.1)
      (later.1, later.2.1, answeredTrail delivery answered.2.2 answered.1 ++ later.2.2) := by
  rcases answered : submit (delivery.job update) queue with ⟨result, next, trail⟩
  have spelled : submit { update, traceId := delivery.traceId } queue = (result, next, trail) :=
    answered
  rw [submitAll, spelled]
  cases result with
  | ok _ => rfl
  | error refusal => cases refusal <;> rfl

/-- A sink call that has ended. It is recorded in two parts: its outcome is counted, then it is
shown. -/
structure Recording where
  job : Dispatch.Job
  answer : SinkAnswer
  counted : Bool

def Recording.counts (recording : Recording) : Trail :=
  { Trail.empty with metrics := (Dispatch.outcomeTrail recording.job recording.answer).metrics }

def Recording.shows (recording : Recording) : Trail :=
  { Dispatch.outcomeTrail recording.job recording.answer with metrics := [] }

theorem Recording.counts_append_shows (recording : Recording) :
    recording.counts ++ recording.shows =
      Dispatch.outcomeTrail recording.job recording.answer := rfl

/-! ### The gateway and its actions -/

/-- The dispatcher, the deliveries that have arrived and those under way, the ended sink calls that
are not recorded, the reports, all that was left behind, and a listener: what he has seen, and
whether he was never too late. -/
structure Traffic where
  dispatcher : Dispatch.System
  arrived : List Delivery
  underWay : List Handling
  recordings : List Recording
  reports : List Report
  trail : Trail
  listener : Tap.Listener
  seen : List Tap.Event
  kept : Bool

inductive Action where
  | arrive (delivery : Delivery)
  | proceed (place : Nat)
  | worker (action : Dispatch.Action)
  | finish (place : Nat) (answer : SinkAnswer)
  | record (place : Nat)
  | look

namespace Traffic

def hub (traffic : Traffic) : Tap.Hub :=
  { published := traffic.trail.tap }

def start? (limits : Dispatch.Limits) : Option Traffic :=
  (Dispatch.System.start? limits).map fun dispatcher => {
    dispatcher
    arrived := [], underWay := [], recordings := [], reports := []
    trail := .empty
    listener := Tap.Hub.empty.listen
    seen := []
    kept := true }

def proceed? (settings : Settings) (place : Nat) (handling : Handling) (traffic : Traffic) :
    Option Traffic :=
  match handling.left, handling.offers with
  | part :: left, _ => some { traffic with
      underWay := traffic.underWay.set place { handling with left }
      trail := traffic.trail ++ part }
  | [], some { request, jobs := job :: jobs, tally } =>
    let (result, _, trail) := Dispatch.submit job traffic.dispatcher.queue
    (traffic.dispatcher.next? (.submit job)).map fun dispatcher => { traffic with
      dispatcher
      underWay := traffic.underWay.set place { handling with
        left := (answeredTrail handling.delivery trail result).parts
        offers := some { request, jobs, tally := tally.count result } } }
  | [], some { request, jobs := [], tally } =>
    let report : Report := { delivery := handling.delivery, request, tally }
    some { traffic with
      underWay := traffic.underWay.set place { handling with
        left := acknowledgedTrail.parts, offers := none }
      reports := traffic.reports ++ [report]
      trail := traffic.trail ++ report.trail settings }
  | [], none => some { traffic with underWay := traffic.underWay.eraseIdx place }

def next? (settings : Settings) (action : Action) (traffic : Traffic) : Option Traffic :=
  match action with
  | .arrive delivery => some { traffic with
      arrived := traffic.arrived ++ [delivery]
      underWay := traffic.underWay ++ [Handling.of settings delivery] }
  | .proceed place =>
    match traffic.underWay[place]? with
    | some handling => traffic.proceed? settings place handling
    | none => none
  | .worker (.submit _) | .worker (.finish _ _) => none
  | .worker action =>
    (traffic.dispatcher.next? action).map fun dispatcher => { traffic with dispatcher }
  | .finish place answer =>
    match traffic.dispatcher.queue.running[place]?,
        traffic.dispatcher.next? (.finish place answer.result) with
    | some job, some dispatcher => some { traffic with
        dispatcher
        recordings := traffic.recordings ++ [{ job, answer, counted := false }] }
    | _, _ => none
  | .record place =>
    match traffic.recordings[place]? with
    | some recording =>
      if recording.counted then some { traffic with
        recordings := traffic.recordings.eraseIdx place
        trail := traffic.trail ++ recording.shows }
      else some { traffic with
        recordings := traffic.recordings.set place { recording with counted := true }
        trail := traffic.trail ++ recording.counts }
    | none => none
  | .look =>
    let (received, listener) := traffic.hub.receive traffic.listener
    let behind := traffic.hub.published.length - traffic.listener.position
    some { traffic with
      listener
      seen := traffic.seen ++ received
      kept := traffic.kept && decide (behind ≤ Tap.Hub.capacity) }

def run? (settings : Settings) : List Action → Traffic → Option Traffic
  | [], traffic => some traffic
  | action :: rest, traffic => (traffic.next? settings action).bind (run? settings rest)

theorem run?_append (settings : Settings) (first second : List Action) (traffic : Traffic) :
    traffic.run? settings (first ++ second) =
      (traffic.run? settings first).bind (run? settings second) := by
  induction first generalizing traffic with
  | nil => rfl
  | cons action rest ih =>
      rw [List.cons_append, run?, run?, Option.bind_assoc]
      exact congrArg _ (funext fun next => ih next)

/-! ### What one action does -/

/-- Replacing or removing an item leaves what stands on both sides of it. -/
theorem exists_split {Item : Type} {items : List Item} {place : Nat} {item : Item}
    (found : items[place]? = some item) :
    ∃ before after, items = before ++ item :: after ∧
      items.eraseIdx place = before ++ after ∧
      ∀ other, items.set place other = before ++ other :: after := by
  obtain ⟨within, same⟩ := List.getElem?_eq_some_iff.mp found
  refine ⟨items.take place, items.drop (place + 1), ?_, List.eraseIdx_eq_take_drop_succ _ _, ?_⟩
  · rw [← same, List.getElem_cons_drop, List.take_append_drop]
  · intro other
    rw [List.set_eq_take_append_cons_drop, if_pos within]

/-- All that an action can do. -/
inductive Step (settings : Settings) (traffic : Traffic) : Traffic → Prop where
  | arrive (delivery : Delivery) :
      Step settings traffic { traffic with
        arrived := traffic.arrived ++ [delivery]
        underWay := traffic.underWay ++ [Handling.of settings delivery] }
  | leave {before after : List Handling} {handling : Handling} {part : Trail} {left : List Trail}
      (split : traffic.underWay = before ++ handling :: after)
      (next : handling.left = part :: left) :
      Step settings traffic { traffic with
        underWay := before ++ { handling with left } :: after
        trail := traffic.trail ++ part }
  | offer {before after : List Handling} {handling : Handling} {request : Request}
      {job : Dispatch.Job} {jobs : List Dispatch.Job} {tally : Tally}
      (split : traffic.underWay = before ++ handling :: after)
      (nothing : handling.left = [])
      (offers : handling.offers = some { request, jobs := job :: jobs, tally })
      (shared : traffic.dispatcher.handles ≠ 0) :
      Step settings traffic { traffic with
        dispatcher := { traffic.dispatcher with
          queue := (Dispatch.submit job traffic.dispatcher.queue).2.1
          history := traffic.dispatcher.history ++
            [.answered job (Dispatch.submit job traffic.dispatcher.queue).1] }
        underWay := before ++ { handling with
          left := (answeredTrail handling.delivery
            (Dispatch.submit job traffic.dispatcher.queue).2.2
            (Dispatch.submit job traffic.dispatcher.queue).1).parts
          offers := some { request, jobs
                           tally := tally.count
                             (Dispatch.submit job traffic.dispatcher.queue).1 } } :: after }
  | report {before after : List Handling} {handling : Handling} {request : Request} {tally : Tally}
      (split : traffic.underWay = before ++ handling :: after)
      (nothing : handling.left = [])
      (offers : handling.offers = some { request, jobs := [], tally }) :
      Step settings traffic { traffic with
        underWay := before ++
          { handling with left := acknowledgedTrail.parts, offers := none } :: after
        reports := traffic.reports ++ [{ delivery := handling.delivery, request, tally }]
        trail := traffic.trail ++
          Report.trail settings { delivery := handling.delivery, request, tally } }
  | done {before after : List Handling} {handling : Handling}
      (split : traffic.underWay = before ++ handling :: after)
      (nothing : handling.left = []) (offers : handling.offers = none) :
      Step settings traffic { traffic with underWay := before ++ after }
  | work {action : Dispatch.Action} {dispatcher : Dispatch.System}
      (offers : ∀ job, action ≠ .submit job) (ends : ∀ place result, action ≠ .finish place result)
      (moved : traffic.dispatcher.next? action = some dispatcher) :
      Step settings traffic { traffic with dispatcher }
  | finish {place : Nat} {answer : SinkAnswer} {job : Dispatch.Job} {dispatcher : Dispatch.System}
      (running : traffic.dispatcher.queue.running[place]? = some job)
      (moved : traffic.dispatcher.next? (.finish place answer.result) = some dispatcher) :
      Step settings traffic { traffic with
        dispatcher
        recordings := traffic.recordings ++ [{ job, answer, counted := false }] }
  | count {before after : List Recording} {recording : Recording}
      (split : traffic.recordings = before ++ recording :: after)
      (uncounted : recording.counted = false) :
      Step settings traffic { traffic with
        recordings := before ++ { recording with counted := true } :: after
        trail := traffic.trail ++ recording.counts }
  | tell {before after : List Recording} {recording : Recording}
      (split : traffic.recordings = before ++ recording :: after)
      (counted : recording.counted = true) :
      Step settings traffic { traffic with
        recordings := before ++ after
        trail := traffic.trail ++ recording.shows }
  | look :
      Step settings traffic { traffic with
        listener := traffic.hub.listen
        seen := traffic.seen ++ (traffic.hub.receive traffic.listener).1
        kept := traffic.kept && decide
          (traffic.hub.published.length - traffic.listener.position ≤ Tap.Hub.capacity) }

variable {settings : Settings} {traffic next : Traffic}

theorem step_of_proceed? {place : Nat} {handling : Handling}
    (found : traffic.underWay[place]? = some handling)
    (moved : traffic.proceed? settings place handling = some next) :
    Step settings traffic next := by
  obtain ⟨before, after, split, erased, replaced⟩ := exists_split found
  unfold proceed? at moved
  split at moved
  · rename_i part left _ more
    cases moved
    rw [replaced]
    exact .leave split more
  · rename_i request job jobs tally nothing offers
    obtain ⟨dispatcher, submitted, rfl⟩ := Option.map_eq_some_iff.mp moved
    obtain ⟨shared, rfl⟩ := Dispatch.System.next?_submit_eq_some.mp submitted
    rw [replaced]
    exact .offer split nothing offers shared
  · rename_i request tally nothing offers
    cases moved
    rw [replaced]
    exact .report split nothing offers
  · rename_i nothing offers
    cases moved
    rw [erased]
    exact .done split nothing offers

theorem step_of_next? {action : Action} (moved : traffic.next? settings action = some next) :
    Step settings traffic next := by
  unfold next? at moved
  split at moved
  · rename_i delivery
    cases moved
    exact .arrive delivery
  · split at moved
    · rename_i found
      exact step_of_proceed? found moved
    · cases moved
  · cases moved
  · cases moved
  · rename_i own offers ends
    obtain ⟨dispatcher, went, rfl⟩ := Option.map_eq_some_iff.mp moved
    exact .work offers ends went
  · split at moved
    · rename_i running finished
      cases moved
      exact .finish running finished
    · cases moved
  · split at moved
    · rename_i recording found
      obtain ⟨before, after, split, erased, replaced⟩ := exists_split found
      split at moved
      · rename_i counted
        cases moved
        rw [erased]
        exact .tell split counted
      · rename_i uncounted
        cases moved
        rw [replaced]
        exact .count split (Bool.eq_false_iff.mpr uncounted)
    · cases moved
  · cases moved
    exact .look

/-- What holds at first and is kept by every step holds after any run. -/
theorem run?_induction {holds : Traffic → Prop} {actions : List Action}
    (kept : ∀ {traffic next}, Step settings traffic next → holds traffic → holds next)
    (ran : traffic.run? settings actions = some next) (first : holds traffic) : holds next := by
  induction actions generalizing traffic with
  | nil => exact Option.some.inj ran ▸ first
  | cons action rest ih =>
      obtain ⟨between, moved, ran⟩ := Option.bind_eq_some_iff.mp ran
      exact ih ran (kept (step_of_next? moved) first)

/-! ### A delivery that is not interrupted -/

/-- A delivery goes on some steps, and nothing else happens. -/
def GoesOn (settings : Settings) (place : Nat) (traffic next : Traffic) : Prop :=
  ∃ count, traffic.run? settings (List.replicate count (.proceed place)) = some next

namespace GoesOn

variable {place : Nat} {later : Traffic}

theorem refl : GoesOn settings place traffic traffic := ⟨0, rfl⟩

theorem trans (first : GoesOn settings place traffic next)
    (second : GoesOn settings place next later) : GoesOn settings place traffic later := by
  obtain ⟨count, ran⟩ := first
  obtain ⟨more, ranOn⟩ := second
  refine ⟨count + more, ?_⟩
  rw [← List.replicate_append_replicate, run?_append, ran]
  exact ranOn

theorem single {handling : Handling} (found : traffic.underWay[place]? = some handling)
    (moved : traffic.proceed? settings place handling = some next) :
    GoesOn settings place traffic next := by
  refine ⟨1, ?_⟩
  rw [List.replicate_one, run?, next?, found]
  dsimp only
  rw [moved]
  rfl

end GoesOn

variable {others : List Handling} {delivery : Delivery} {offers : Option Offers}

theorem last_underWay (others : List Handling) (handling : Handling) :
    (others ++ [handling])[others.length]? = some handling := by
  rw [List.getElem?_append_right (Nat.le_refl _), Nat.sub_self, List.getElem?_cons_zero]

theorem set_last (others : List Handling) (handling other : Handling) :
    (others ++ [handling]).set others.length other = others ++ [other] := by
  rw [List.set_append_right _ _ (Nat.le_refl _), Nat.sub_self, List.set_cons_zero]

theorem eraseIdx_last (others : List Handling) (handling : Handling) :
    (others ++ [handling]).eraseIdx others.length = others := by
  rw [List.eraseIdx_append_of_length_le (Nat.le_refl _), Nat.sub_self]
  exact List.append_nil _

theorem GoesOn.last {handling : Handling} (alone : traffic.underWay = others ++ [handling])
    (moved : traffic.proceed? settings others.length handling = some next) :
    GoesOn settings others.length traffic next :=
  .single (by rw [alone, last_underWay]) moved

theorem goesOn_left (left : List Trail)
    (alone : traffic.underWay = others ++ [⟨delivery, left, offers⟩]) :
    GoesOn settings others.length traffic { traffic with
      underWay := others ++ [{ delivery, left := [], offers }]
      trail := traffic.trail ++ .join left } := by
  induction left generalizing traffic with
  | nil =>
      rw [← alone]
      change GoesOn _ _ _ { traffic with trail := traffic.trail ++ .empty }
      rw [Trail.append_empty]
      exact .refl
  | cons part left ih =>
      have moved : traffic.proceed? settings others.length { delivery, left := part :: left, offers } =
          some { traffic with
            underWay := others ++ [⟨delivery, left, offers⟩], trail := traffic.trail ++ part } := by
        rw [proceed?]
        dsimp only
        rw [alone, set_last]
      have later := @ih { traffic with
        underWay := others ++ [⟨delivery, left, offers⟩], trail := traffic.trail ++ part } rfl
      rw [Trail.append_assoc] at later
      exact (GoesOn.last alone moved).trans later

theorem goesOn_offers (settings : Settings) (traffic : Traffic) {request : Request}
    (updates : List Update) {tally : Tally}
    (alone : traffic.underWay = others ++ [{
      delivery, left := []
      offers := some { request, jobs := updates.map delivery.job, tally } }])
    (shared : traffic.dispatcher.handles ≠ 0) :
    let (queue, counted, trail) :=
      submitAll Dispatch.submit delivery updates traffic.dispatcher.queue tally
    ∃ next, GoesOn settings others.length traffic next ∧
      next.underWay = others ++ [{
        delivery, left := [], offers := some { request, jobs := [], tally := counted } }] ∧
      next.dispatcher.queue = queue ∧ next.trail = traffic.trail ++ trail := by
  induction updates generalizing traffic tally with
  | nil => exact ⟨traffic, .refl, alone, rfl, (Trail.append_empty _).symm⟩
  | cons update rest ih =>
      rw [submitAll_cons]
      generalize same : Dispatch.submit (delivery.job update) traffic.dispatcher.queue = answered
      have offered : GoesOn settings others.length traffic { traffic with
          dispatcher := { traffic.dispatcher with
            queue := answered.2.1
            history := traffic.dispatcher.history ++ [.answered (delivery.job update) answered.1] }
          underWay := others ++ [{
            delivery, left := (answeredTrail delivery answered.2.2 answered.1).parts
            offers := some {
              request, jobs := rest.map delivery.job, tally := tally.count answered.1 } }] } := by
        apply GoesOn.last alone
        rw [List.map_cons, proceed?]
        dsimp only
        rw [Dispatch.System.next?_submit_eq_some.mpr ⟨shared, rfl⟩, alone, set_last, same]
        rfl
      have left := offered.trans (goesOn_left _ rfl)
      rw [Trail.join_parts] at left
      obtain ⟨next, goesOn, underWay, queue, trail⟩ := @ih { traffic with
        dispatcher := { traffic.dispatcher with
          queue := answered.2.1
          history := traffic.dispatcher.history ++ [.answered (delivery.job update) answered.1] }
        underWay := others ++ [{
          delivery, left := []
          offers := some {
            request, jobs := rest.map delivery.job, tally := tally.count answered.1 } }]
        trail := traffic.trail ++ answeredTrail delivery answered.2.2 answered.1 } _ rfl shared
      refine ⟨next, left.trans goesOn, underWay, queue, ?_⟩
      rw [trail, Trail.append_assoc]

theorem goesOn_end (alone : traffic.underWay = others ++ [{
    delivery, left := [], offers := none }]) :
    GoesOn settings others.length traffic { traffic with underWay := others } := by
  apply GoesOn.last alone
  rw [proceed?]
  dsimp only
  rw [alone, eraseIdx_last]

theorem goesOn_report {request : Request} {tally : Tally}
    (alone : traffic.underWay = others ++ [{
      delivery, left := [], offers := some { request, jobs := [], tally } }]) :
    GoesOn settings others.length traffic { traffic with
      underWay := others
      reports := traffic.reports ++ [⟨delivery, request, tally⟩]
      trail := traffic.trail ++ Report.trail settings ⟨delivery, request, tally⟩ ++
        acknowledgedTrail } := by
  have reported : GoesOn settings others.length traffic { traffic with
      underWay := others ++ [{ delivery, left := acknowledgedTrail.parts, offers := none }]
      reports := traffic.reports ++ [⟨delivery, request, tally⟩]
      trail := traffic.trail ++ Report.trail settings ⟨delivery, request, tally⟩ } := by
    apply GoesOn.last alone
    rw [proceed?]
    dsimp only
    rw [alone, set_last]
  have left := reported.trans (goesOn_left _ rfl)
  rw [Trail.join_parts] at left
  exact left.trans (goesOn_end rfl)

/-- A delivery that arrives and is not interrupted is handled as `ingest` handles it. -/
theorem uninterrupted_is_ingest (shared : traffic.dispatcher.handles ≠ 0) :
    ∃ arrived next, traffic.next? settings (.arrive delivery) = some arrived ∧
      GoesOn settings traffic.underWay.length arrived next ∧
      next.underWay = traffic.underWay ∧
      next.dispatcher.queue =
        (ingest Dispatch.submit settings delivery traffic.dispatcher.queue).queue ∧
      next.trail = traffic.trail ++
        (ingest Dispatch.submit settings delivery traffic.dispatcher.queue).trail := by
  suffices handled : ∃ next, GoesOn settings traffic.underWay.length { traffic with
        arrived := traffic.arrived ++ [delivery]
        underWay := traffic.underWay ++ [Handling.of settings delivery] } next ∧
      next.underWay = traffic.underWay ∧
      next.dispatcher.queue =
        (ingest Dispatch.submit settings delivery traffic.dispatcher.queue).queue ∧
      next.trail = traffic.trail ++
        (ingest Dispatch.submit settings delivery traffic.dispatcher.queue).trail by
    obtain ⟨next, handled⟩ := handled
    exact ⟨_, next, rfl, handled⟩
  unfold Handling.of ingest
  rcases check settings delivery with ⟨cause | request | request, log⟩
  · refine ⟨_, (goesOn_left _ rfl).trans (goesOn_end rfl), rfl, rfl, ?_⟩
    simp only [Trail.join_append, Trail.join_parts]
    rfl
  · refine ⟨_, (goesOn_left _ rfl).trans (goesOn_end rfl), rfl, rfl, ?_⟩
    simp only [Trail.join_append, Trail.join_parts]
    rfl
  · have jobs : jobsOf settings delivery request =
        (request.updates settings.policy).map delivery.job := jobsOf_eq settings delivery request
    obtain ⟨offered, goesOn, underWay, queue, trail⟩ := goesOn_offers settings
      { traffic with
        arrived := traffic.arrived ++ [delivery]
        underWay := traffic.underWay ++ [{
          delivery, left := []
          offers := some {
            request, jobs := jobsOf settings delivery request
            tally := { queued := 0, dropped := 0 } } }]
        trail := traffic.trail ++ Trail.join
          (Trail.parts { Trail.empty with log } ++ (readyTrail delivery request).parts) }
      (request.updates settings.policy) (by rw [jobs]) shared
    refine ⟨_, (goesOn_left _ rfl).trans (goesOn.trans (goesOn_report underWay)), rfl, queue, ?_⟩
    have told : (submitUpdates Dispatch.submit settings delivery request
        traffic.dispatcher.queue).2 = _ := Trail.append_assoc _ _ _
    dsimp only
    rw [trail, told]
    simp only [Trail.join_append, Trail.join_parts, Trail.append_assoc]
    rfl

end Traffic

end Webhook

end PresenceGateway
