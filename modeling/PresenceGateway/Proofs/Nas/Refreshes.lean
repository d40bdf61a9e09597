import PresenceGateway.Proofs.Nas.Attempts
/-!
The refreshes after a setup. Each domain of the runtime is refreshed whenever a whole number of its
periods has passed, whatever the refreshes before were answered. A coordinator holds the data of its last
fetch that succeeded, and every fetch is counted by its result.
-/
namespace PresenceGateway.Nas

open Json (Value)

variable {Handle World : Type}

/-! ### When domains are refreshed -/

def Runtime.domains (runtime : Runtime Handle) : List Domain :=
  [.central, .cameras, .switches].filter fun domain => (runtime.coordinator? domain).isSome

theorem Runtime.domains_nodup (runtime : Runtime Handle) : runtime.domains.Nodup :=
  List.filter_sublist.nodup (by decide)

theorem Runtime.coordinators_domains {runtime : Runtime Handle} {fetched : Domain → Option Value}
    (holds : ∀ domain, runtime.coordinator? domain =
      (fetched domain).map (Setup.holding domain)) :
    runtime.coordinators.map (·.domain) = runtime.domains := by
  obtain ⟨api, central, cameras, switches⟩ := runtime
  have placed (domain : Domain) (coordinator : Coordinator)
      (found : coordinator? ⟨api, central, cameras, switches⟩ domain = some coordinator) :
      coordinator.domain = domain := by
    rw [holds] at found
    obtain ⟨data, _, rfl⟩ := Option.map_eq_some_iff.mp found
    rfl
  have first : central.domain = .central := placed .central central rfl
  have place (domain : Domain) (found : Option Coordinator)
      (here : ∀ coordinator, found = some coordinator → coordinator.domain = domain) :
      found.toList.map (·.domain) = [domain].filter fun _ => found.isSome := by
    cases found with
    | none => rfl
    | some coordinator => exact congrArg ([·]) (here coordinator rfl)
  have second := place .cameras cameras (placed .cameras)
  have third := place .switches switches (placed .switches)
  change central.domain :: (cameras.toList ++ switches.toList).map (·.domain) = _
  rw [first, List.map_append, second, third]
  unfold domains
  cases cameras <;> cases switches <;> rfl

def Domain.isDue (domain : Domain) (elapsed : Nat) : Bool :=
  elapsed % domain.period == 0

def refreshes (domains : List Domain) (start : Nat) : Nat → List (Nat × Domain)
  | 0 => []
  | elapsed + 1 => refreshes domains start elapsed ++
      (domains.filter (·.isDue (elapsed + 1))).map fun domain => (start + (elapsed + 1), domain)

def pollerAt (start elapsed : Nat) (domain : Domain) : Poller :=
  { domain, next := start + domain.period * (elapsed / domain.period + 1), running := none }

theorem Domain.next_period (domain : Domain) (elapsed : Nat) :
    (domain.isDue (elapsed + 1) = true ∧
      domain.period * (elapsed / domain.period + 1) = elapsed + 1 ∧
      (elapsed + 1) / domain.period = elapsed / domain.period + 1) ∨
    (domain.isDue (elapsed + 1) = false ∧
      domain.period * (elapsed / domain.period + 1) ≠ elapsed + 1 ∧
      (elapsed + 1) / domain.period = elapsed / domain.period) := by
  unfold Domain.isDue
  cases domain <;> simp only [Domain.period, beq_iff_eq, beq_eq_false_iff_ne] <;> omega

def fetchCall (refresh : Nat × Domain) : Nat × Call :=
  (refresh.1, .fetch refresh.2)

theorem timesOf_fetch_of_second (domain : Domain) (time : Nat) {domains : List Domain}
    (distinct : domains.Nodup) :
    timesOf (.fetch domain) ((domains.map fun due => (time, due)).map fetchCall) =
      if domain ∈ domains then [time] else [] := by
  induction domains with
  | nil => rfl
  | cons first rest ih =>
      rw [List.nodup_cons] at distinct
      rw [List.map_cons, List.map_cons, ← List.singleton_append, timesOf_append, ih distinct.2]
      by_cases same : first = domain
      · subst same
        rw [if_neg distinct.1, if_pos List.mem_cons_self]
        simp [timesOf, fetchCall]
      · have other : domain ∈ first :: rest ↔ domain ∈ rest := by
          rw [List.mem_cons]
          exact or_iff_right fun equal => same equal.symm
        have nothing : timesOf (.fetch domain) [fetchCall (time, first)] = [] := by
          simp [timesOf, fetchCall, same]
        rw [nothing, List.nil_append]
        by_cases inside : domain ∈ rest
        · rw [if_pos inside, if_pos (other.mpr inside)]
        · rw [if_neg inside, if_neg (mt other.mp inside)]

/-- A domain is refreshed at the ends of its periods. -/
theorem timesOf_fetch_refreshes (domain : Domain) {domains : List Domain}
    (distinct : domains.Nodup) (start elapsed : Nat) :
    timesOf (.fetch domain) ((refreshes domains start elapsed).map fetchCall) =
      if domain ∈ domains then
        (List.range (elapsed / domain.period)).map fun j => start + domain.period * (j + 1)
      else [] := by
  induction elapsed with
  | zero =>
      rw [Nat.zero_div]
      exact (ite_self _).symm
  | succ elapsed ih =>
      have due : (domains.filter (·.isDue (elapsed + 1))).Nodup := List.filter_sublist.nodup distinct
      rw [refreshes, List.map_append, timesOf_append, ih, timesOf_fetch_of_second domain _ due]
      by_cases inside : domain ∈ domains
      · rw [if_pos inside, if_pos inside]
        rcases domain.next_period elapsed with ⟨isDue, ends, next⟩ | ⟨notDue, _, same⟩
        · rw [if_pos (List.mem_filter.mpr ⟨inside, isDue⟩), next, List.range_succ, List.map_append,
            List.map_singleton, ends]
        · have absent : domain ∉ domains.filter (·.isDue (elapsed + 1)) := by
            rw [List.mem_filter, notDue]
            exact fun both => Bool.noConfusion both.2
          rw [if_neg absent, same, List.append_nil]
      · rw [if_neg inside, if_neg inside, if_neg fun both => inside (List.mem_filter.mp both).1,
          List.append_nil]

theorem timesOf_setup_refreshes (done : List (Nat × Domain)) :
    timesOf .setup (done.map fetchCall) = [] := by
  unfold timesOf
  rw [List.filter_eq_nil_iff.mpr, List.map_nil]
  intro call inside
  obtain ⟨refresh, _, rfl⟩ := List.mem_map.mp inside
  exact Bool.false_ne_true

/-! ### What refreshes are answered -/

structure Fetch where
  time : Nat
  domain : Domain
  reply : Except NasError Value

namespace Fetch

def call (fetch : Fetch) : Nat × Call :=
  (fetch.time, .fetch fetch.domain)

def metric (fetch : Fetch) : Metric × Nat :=
  (.refresh fetch.domain.text (Supervisor.refreshResult fetch.reply), 1)

/-- What a coordinator is after a refresh, which changes that of its domain alone. -/
def onto (fetch : Fetch) (domain : Domain) (coordinator : Coordinator) : Coordinator :=
  if fetch.domain = domain then coordinator.receive fetch.reply else coordinator

end Fetch

theorem Api.after_append (interface : Api Handle World) (api : Handle) (world : World)
    (first second : List Call) :
    interface.after api world (first ++ second) =
      interface.after api (interface.after api world first) second :=
  List.foldl_append

def Api.fetches (interface : Api Handle World) (api : Handle) :
    World → List (Nat × Domain) → List Fetch
  | _, [] => []
  | world, (time, domain) :: rest =>
    let answer := interface.call api (.fetch domain) world
    ⟨time, domain, answer.1⟩ :: interface.fetches api answer.2 rest

theorem Api.fetches_append (interface : Api Handle World) (api : Handle) (world : World)
    (first second : List (Nat × Domain)) :
    interface.fetches api world (first ++ second) =
      interface.fetches api world first ++
        interface.fetches api (interface.after api world (first.map fun refresh => .fetch refresh.2))
          second := by
  induction first generalizing world with
  | nil => rfl
  | cons refresh rest ih => exact congrArg (_ :: ·) (ih _)

theorem Api.fetches_call (interface : Api Handle World) (api : Handle) (world : World)
    (refreshes : List (Nat × Domain)) :
    (interface.fetches api world refreshes).map (·.call) = refreshes.map fetchCall := by
  induction refreshes generalizing world with
  | nil => rfl
  | cons refresh rest ih => exact congrArg (_ :: ·) (ih _)

/-! ### What fetches amount to -/

namespace Fetch

variable {fetches : List Fetch} {domain : Domain}

def data? (domain : Domain) (fetch : Fetch) : Option Value :=
  if fetch.domain = domain then fetch.reply.toOption else none

/-- The data of the last fetch of a domain that succeeded. -/
def last? (domain : Domain) (fetches : List Fetch) : Option Value :=
  (fetches.filterMap (data? domain)).getLast?

def count (domain : Domain) (succeeded : Bool) (fetches : List Fetch) : Nat :=
  fetches.countP fun fetch => fetch.domain = domain && fetch.reply.toBool == succeeded

theorem onto_eq (fetch : Fetch) (coordinator : Coordinator) :
    fetch.onto domain coordinator =
      { coordinator with data := (fetch.data? domain).or coordinator.data } := by
  unfold onto data?
  split
  · cases fetch.reply <;> rfl
  · rfl

/-- After some fetches a coordinator holds what the last one of its domain that succeeded has brought. -/
theorem foldl_onto (fetches : List Fetch) (coordinator : Coordinator) :
    fetches.foldl (fun held fetch => fetch.onto domain held) coordinator =
      { coordinator with data := (last? domain fetches).or coordinator.data } := by
  induction fetches generalizing coordinator with
  | nil => rfl
  | cons fetch rest ih =>
      rw [List.foldl_cons, ih, onto_eq]
      unfold last?
      rw [List.filterMap_cons]
      cases fetch.data? domain with
      | none => rfl
      | some data =>
          dsimp only
          rw [List.getLast?_cons]
          cases (rest.filterMap (Fetch.data? domain)).getLast? <;> rfl

theorem count_cons (domain : Domain) (succeeded : Bool) (fetch : Fetch) (rest : List Fetch) :
    count domain succeeded (fetch :: rest) = count domain succeeded rest +
      if fetch.domain = domain ∧ fetch.reply.toBool = succeeded then 1 else 0 := by
  unfold count
  rw [List.countP_cons]
  by_cases same : fetch.domain = domain
  · simp [same]
  · simp [same]

theorem count_add_count (domain : Domain) (fetches : List Fetch) :
    count domain true fetches + count domain false fetches =
      (timesOf (.fetch domain) (fetches.map (·.call))).length := by
  induction fetches with
  | nil => rfl
  | cons fetch rest ih =>
      have here : (timesOf (.fetch domain) [fetch.call]).length =
          if fetch.domain = domain then 1 else 0 := by
        unfold timesOf call
        by_cases same : fetch.domain = domain
        · simp [same]
        · simp [same]
      rw [count_cons, count_cons, List.map_cons, ← List.singleton_append, timesOf_append,
        List.length_append, ← ih, here]
      by_cases same : fetch.domain = domain
      · cases fetch.reply.toBool <;> simp [same] <;> omega
      · simp [same]

theorem metric_eq_iff (domain : Domain) (succeeded : Bool) (fetch : Fetch) :
    fetch.metric.1 = .refresh domain.text (if succeeded then "ok" else "error") ↔
      fetch.domain = domain ∧ fetch.reply.toBool = succeeded := by
  obtain ⟨time, other, reply⟩ := fetch
  have texts : other.text = domain.text ↔ other = domain := by
    cases other <;> cases domain <;> simp [Domain.text]
  have results : Supervisor.refreshResult reply = (if succeeded then "ok" else "error") ↔
      reply.toBool = succeeded := by
    cases reply <;> cases succeeded <;> simp [Supervisor.refreshResult, Except.toBool]
  unfold metric
  rw [Metric.refresh.injEq, texts, results]

theorem total_metrics (domain : Domain) (succeeded : Bool) (fetches : List Fetch) :
    Metrics.total (fetches.map (·.metric))
        (.refresh domain.text (if succeeded then "ok" else "error")) =
      count domain succeeded fetches := by
  induction fetches with
  | nil => rfl
  | cons fetch rest ih =>
      rw [List.map_cons, Metrics.total_cons, ih, count_cons, Nat.add_comm]
      by_cases same : fetch.domain = domain ∧ fetch.reply.toBool = succeeded
      · rw [if_pos same, if_pos ((metric_eq_iff _ _ _).mpr same)]
        rfl
      · rw [if_neg same, if_neg (mt (metric_eq_iff _ _ _).mp same)]

end Fetch

/-! ### What refreshes change -/

theorem Runtime.withCoordinator_api (runtime : Runtime Handle) (domain : Domain)
    (coordinator : Coordinator) : (runtime.withCoordinator domain coordinator).api = runtime.api := by
  cases domain <;> rfl

theorem Runtime.coordinator?_withCoordinator (runtime : Runtime Handle) (domain other : Domain)
    (coordinator : Coordinator) :
    (runtime.withCoordinator domain coordinator).coordinator? other =
      (runtime.coordinator? other).map fun old => if domain = other then coordinator else old := by
  cases domain <;> cases other <;> simp [withCoordinator, coordinator?]

namespace Supervisor

/-- The entry has a runtime in the registry, whose coordinators are those of another after some
fetches. -/
def Registered (s : Supervisor Handle World) (runtime : Runtime Handle) (fetches : List Fetch) :
    Prop :=
  ∃ now, s.registry.get? s.entry.uniqueId = some now ∧ now.api = runtime.api ∧
    ∀ domain, now.coordinator? domain = (runtime.coordinator? domain).map fun coordinator =>
      fetches.foldl (fun held fetch => fetch.onto domain held) coordinator

theorem Registered.receive {s : Supervisor Handle World} {runtime : Runtime Handle}
    {fetches : List Fetch} (registered : s.Registered runtime fetches) (fetch : Fetch) :
    (s.receive fetch.domain fetch.reply).Registered runtime (fetches ++ [fetch]) := by
  obtain ⟨now, found, sameApi, holds⟩ := registered
  have later (domain : Domain) :
      ((runtime.coordinator? domain).map fun coordinator =>
        (fetches ++ [fetch]).foldl (fun held fetch => fetch.onto domain held) coordinator) =
      (now.coordinator? domain).map (fetch.onto domain) := by
    rw [holds, Option.map_map]
    simp only [List.foldl_append]
    rfl
  unfold Registered Supervisor.receive
  dsimp only
  rw [found]
  dsimp only [Option.bind_some]
  cases here : now.coordinator? fetch.domain with
  | none =>
      refine ⟨now, found, sameApi, fun domain => ?_⟩
      rw [later]
      by_cases same : fetch.domain = domain
      · rw [← same, here]
        rfl
      · cases now.coordinator? domain with
        | none => rfl
        | some coordinator => rw [Option.map_some, Fetch.onto, if_neg same]
  | some coordinator =>
      refine ⟨now.withCoordinator fetch.domain (coordinator.receive fetch.reply), ?_, ?_, ?_⟩
      · dsimp only
        rw [Registry.get?_withCoordinator, if_pos rfl, found, Option.map_some]
      · rw [Runtime.withCoordinator_api, sameApi]
      · intro domain
        rw [later, Runtime.coordinator?_withCoordinator]
        by_cases same : fetch.domain = domain
        · subst same
          rw [here, Option.map_some, Option.map_some, if_pos rfl, Fetch.onto, if_pos rfl]
        · unfold Fetch.onto
          simp only [if_neg same]

/-- What a supervisor is after some refreshes since its setup has ended. -/
structure Refreshed (interface : Api Handle World) (start : Supervisor Handle World)
    (runtime : Runtime Handle) (done : List (Nat × Domain)) (s : Supervisor Handle World) : Prop where
  api : s.api = start.api
  entry : s.entry = start.entry
  world : s.world =
    interface.after start.api start.world (done.map fun refresh => .fetch refresh.2)
  calls : s.calls = start.calls ++ done.map fetchCall
  metrics : s.metrics =
    start.metrics ++ (interface.fetches start.api start.world done).map (·.metric)
  registered : s.Registered runtime (interface.fetches start.api start.world done)

variable {interface : Api Handle World} {start s : Supervisor Handle World}
  {runtime : Runtime Handle} {done : List (Nat × Domain)}

theorem Refreshed.one_more (refreshed : Refreshed interface start runtime done s) (time : Nat)
    (domain : Domain) :
    Refreshed interface start runtime (done ++ [(time, domain)])
      (s.refreshed interface time domain) := by
  let answer := interface.call s.api (.fetch domain) s.world
  have fetched : interface.fetches start.api start.world (done ++ [(time, domain)]) =
      interface.fetches start.api start.world done ++ [⟨time, domain, answer.1⟩] := by
    rw [Api.fetches_append, ← refreshed.world, ← refreshed.api]
    rfl
  constructor
  · exact refreshed.api
  · exact refreshed.entry
  · rw [List.map_append, Api.after_append, ← refreshed.world, ← refreshed.api]
    rfl
  · rw [List.map_append, ← List.append_assoc, ← refreshed.calls]
    rfl
  · rw [fetched, List.map_append, ← List.append_assoc, ← refreshed.metrics]
    rfl
  · rw [fetched]
    exact Registered.receive refreshed.registered ⟨time, domain, answer.1⟩

theorem Refreshed.more (refreshed : Refreshed interface start runtime done s) (time : Nat)
    (domains : List Domain) :
    Refreshed interface start runtime (done ++ domains.map fun domain => (time, domain))
      (domains.foldl (fun s domain => s.refreshed interface time domain) s) := by
  induction domains generalizing done s with
  | nil =>
      rw [List.map_nil, List.append_nil]
      exact refreshed
  | cons domain rest ih =>
      rw [List.map_cons, List.append_cons]
      exact ih (refreshed.one_more time domain)

/-! ### Pollers -/

structure Polling (interface : Api Handle World) (start : Supervisor Handle World)
    (runtime : Runtime Handle) (time elapsed : Nat) (s : Supervisor Handle World) : Prop where
  phase : s.phase = .polling (runtime.domains.map (pollerAt time elapsed))
  refreshed : Refreshed interface start runtime (refreshes runtime.domains time elapsed) s

theorem moved_pollerAt (time elapsed : Nat) (domain : Domain) :
    moved (time + (elapsed + 1)) (pollerAt time elapsed domain) =
      pollerAt time (elapsed + 1) domain := by
  unfold moved pollerAt
  dsimp only
  rcases domain.next_period elapsed with ⟨_, ends, next⟩ | ⟨_, away, same⟩
  · rw [if_pos (congrArg (time + ·) ends), next, Nat.mul_succ domain.period, ends, Nat.add_assoc]
  · rw [if_neg fun equal => away (Nat.add_left_cancel equal), same]

theorem due_pollers (domains : List Domain) (time elapsed : Nat) :
    ((domains.map (pollerAt time elapsed)).filter fun poller =>
        poller.next = time + (elapsed + 1)).map (·.domain) =
      domains.filter (·.isDue (elapsed + 1)) := by
  have due (domain : Domain) : (decide ((pollerAt time elapsed domain).next =
      time + (elapsed + 1))) = domain.isDue (elapsed + 1) := by
    unfold pollerAt
    dsimp only
    rcases domain.next_period elapsed with ⟨isDue, ends, _⟩ | ⟨notDue, away, _⟩
    · rw [isDue, decide_eq_true (congrArg (time + ·) ends)]
    · rw [notDue, decide_eq_false fun equal => away (Nat.add_left_cancel equal)]
  rw [List.filter_map, List.map_map]
  have same : ((fun poller : Poller => decide (poller.next = time + (elapsed + 1))) ∘
      pollerAt time elapsed) = (·.isDue (elapsed + 1)) := funext due
  rw [same]
  exact List.map_id _

/-- A second in which pollers wait, or refresh the domains whose periods end. -/
theorem Polling.second {time elapsed : Nat}
    (polling : Polling interface start runtime time elapsed s) :
    Polling interface start runtime time (elapsed + 1)
      (s.second interface instant (time + (elapsed + 1))) := by
  have idle : ∀ poller ∈ runtime.domains.map (pollerAt time elapsed), poller.running = none := by
    intro poller inside
    obtain ⟨domain, _, rfl⟩ := List.mem_map.mp inside
    rfl
  have step : s.second interface instant (time + (elapsed + 1)) =
      { (runtime.domains.filter (·.isDue (elapsed + 1))).foldl
          (fun s domain => s.refreshed interface (time + (elapsed + 1)) domain) s with
        phase := .polling (runtime.domains.map (pollerAt time (elapsed + 1))) } := by
    rw [Supervisor.second, polling.phase]
    dsimp only
    rw [pollAll_instant interface _ idle, due_pollers, List.map_map]
    have moves : moved (time + (elapsed + 1)) ∘ pollerAt time elapsed = pollerAt time (elapsed + 1) :=
      funext (moved_pollerAt time elapsed)
    dsimp only
    rw [moves]
  rw [step]
  exact ⟨rfl, { polling.refreshed.more (time + (elapsed + 1))
    (runtime.domains.filter (·.isDue (elapsed + 1))) with }⟩

end Supervisor

end PresenceGateway.Nas
