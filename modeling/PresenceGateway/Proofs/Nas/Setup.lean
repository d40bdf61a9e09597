import PresenceGateway.Proofs.Nas.Plan
/-!
What a setup does to a NAS, and what it ends with.

`Setup.plan` lists the calls of a setup in order. They are made one after the other, and the first that
fails is the last one made. When none fails, the runtime holds what was fetched; otherwise the
failure says why there is no runtime.
-/
namespace PresenceGateway.Nas

open Json (Value)

variable {Handle World Result Next : Type}

/-! ### Answered calls -/

structure Answered (Handle : Type) where
  api : Handle
  what : Call
  reply : Except NasError what.Reply

namespace Answered

def succeeded (answered : Answered Handle) : Bool :=
  answered.reply.toBool

def fetched? (domain : Domain) : Answered Handle → Option Value
  | ⟨_, .fetch other, .ok data⟩ => if other = domain then some data else none
  | _ => none

end Answered

def fetched? (domain : Domain) (answers : List (Answered Handle)) : Option Value :=
  answers.findSome? (Answered.fetched? domain)

def Api.after (interface : Api Handle World) (api : Handle) (world : World) (calls : List Call) :
    World :=
  calls.foldl (fun world what => (interface.call api what world).2) world

namespace Program

def answers (interface : Api Handle World) :
    Program Handle Result → World → List (Answered Handle)
  | done _, _ => []
  | call api what next, world =>
    let answer := interface.call api what world
    ⟨api, what, answer.1⟩ :: (next answer.1).answers interface answer.2
  | available api next, world => (next (interface.available api world)).answers interface world

theorem calls_eq_answers (interface : Api Handle World) (program : Program Handle Result)
    (world : World) :
    program.calls interface world =
      (program.answers interface world).map fun answered => (answered.api, answered.what) := by
  induction program generalizing world with
  | done result => rfl
  | call api what next ih => exact congrArg ((api, what) :: ·) (ih _ _)
  | available api next ih => exact ih _ _

end Program

theorem fetched?_append (domain : Domain) (first second : List (Answered Handle)) :
    fetched? domain (first ++ second) = (fetched? domain first).or (fetched? domain second) :=
  List.findSome?_append

theorem fetched?_fetch (domain other : Domain) (api : Handle) (data : Value) :
    fetched? domain [⟨api, .fetch other, .ok data⟩] = if other = domain then some data else none := by
  rw [fetched?, List.findSome?_singleton, Answered.fetched?]

theorem fetched?_of_other {domain : Domain} {answered : Answered Handle}
    (other : answered.what ≠ .fetch domain) : fetched? domain [answered] = none := by
  obtain ⟨api, what, reply⟩ := answered
  rw [fetched?, List.findSome?_singleton]
  cases what with
  | fetch place =>
      cases reply with
      | error cause => rfl
      | ok data => exact if_neg fun same => other (congrArg Call.fetch same)
  | _ => rfl

theorem mem_of_fetched? {domain : Domain} {answers : List (Answered Handle)} {data : Value}
    (found : fetched? domain answers = some data) :
    ∃ api, ⟨api, .fetch domain, .ok data⟩ ∈ answers := by
  obtain ⟨⟨api, what, reply⟩, inside, here⟩ := List.exists_of_findSome?_eq_some found
  unfold Answered.fetched? at here
  split at here
  · rename_i same
    split at here
    · subst_vars
      cases same
      cases here
      exact ⟨_, inside⟩
    · cases here
  · cases here

namespace Setup

/-! ### The plan -/

def addressCalls (macs : List String) : List Call :=
  if macs = [] then [.networkMacs] else []

def opening (entry : Entry) : List Call :=
  [.setup] ++ addressCalls entry.data.macs ++ [.fetch .central]

def extras (offered : List String) : List Call :=
  (if cameraApi ∈ offered then [.fetch .cameras] else []) ++
    (if infoApi ∈ offered ∧ homeModeApi ∈ offered then [.fetch .switches, .setupSwitches] else [])

def plan (entry : Entry) (offered : List String) : List Call :=
  opening entry ++ extras offered

theorem plan_nodup (entry : Entry) (offered : List String) : (plan entry offered).Nodup := by
  unfold plan opening addressCalls extras
  split <;> split <;> split <;> decide

theorem unload_not_mem_plan {entry : Entry} {offered : List String} :
    .unload ∉ plan entry offered := by
  unfold plan opening addressCalls extras
  split <;> split <;> split <;> decide

/-- The answers to a plan whose calls are made in order up to the first that fails. -/
structure Follows (api : Handle) (plan : List Call) (answers : List (Answered Handle)) : Prop where
  onApi : ∀ answered ∈ answers, answered.api = api
  inOrder : answers.map (·.what) <+: plan
  failsLast : ∀ answered ∈ answers.dropLast, answered.succeeded = true
  toTheEnd : (∀ answered ∈ answers, answered.succeeded = true) → answers.map (·.what) = plan

/-- What a setup that follows a plan ends with. A failure is passed on by its kind, and without one
there is a runtime that holds for each domain of the plan what was fetched for it. -/
structure Concludes (api : Handle) (plan : List Call) (answers : List (Answered Handle))
    (result : Except SetupError (Runtime Handle)) : Prop where
  refused : ∀ what details, ⟨api, what, .error (.auth details)⟩ ∈ answers →
    result = .error (.authFailed details)
  unreachable : ∀ what details, ⟨api, what, .error (.connection details)⟩ ∈ answers →
    result = .error (.notReady details)
  failed : ∀ what name code, ⟨api, what, .error (.api name code)⟩ ∈ answers →
    result = .error (.notReady (name ++ " returned error code " ++ toString code))
  setUp : (∀ answered ∈ answers, answered.succeeded = true) →
    ∃ runtime, result = .ok runtime ∧ runtime.api = api ∧
      (∀ domain, .fetch domain ∈ plan → ∃ data, ⟨api, .fetch domain, .ok data⟩ ∈ answers ∧
        runtime.coordinator? domain = some { domain, data := some data }) ∧
      (∀ domain, .fetch domain ∉ plan → runtime.coordinator? domain = none)

/-! ### Carrying out the plan -/

def holding (domain : Domain) (data : Value) : Coordinator :=
  { domain, data := some data }

/-- What is left of a setup after some answers: it follows what is left of the plan, and the
coordinators hold what was fetched before and since. -/
structure Continues (api : Handle) (before : List (Answered Handle)) (plan : List Call)
    (answers : List (Answered Handle)) (result : Except SetupError (Runtime Handle)) : Prop where
  follows : Follows api plan answers
  failure : ∀ what cause, ⟨api, what, .error cause⟩ ∈ answers →
    result = .error (.ofNasError cause)
  success : (∀ answered ∈ answers, answered.succeeded = true) →
    ∃ runtime, result = .ok runtime ∧ runtime.api = api ∧
      ∀ domain, runtime.coordinator? domain =
        (fetched? domain (before ++ answers)).map (holding domain)

def Goes (interface : Api Handle World) (api : Handle) (before : List (Answered Handle))
    (plan : List Call) (program : Program Handle (SetupResult Handle)) (world : World) : Prop :=
  Continues api before plan (program.answers interface world) (program.run interface world).1.2

variable {interface : Api Handle World} {api : Handle} {entry : Entry} {world : World}
variable {before : List (Answered Handle)} {rest : List Call} {what : Call} {macs : List String}

theorem Follows.answered {answer : what.Reply} {answers : List (Answered Handle)}
    (later : Follows api rest answers) :
    Follows api (what :: rest) (⟨api, what, .ok answer⟩ :: answers) := by
  constructor
  · intro other inside
    rcases List.mem_cons.mp inside with rfl | inside
    · rfl
    · exact later.onApi other inside
  · rw [List.map_cons, List.prefix_cons_inj]
    exact later.inOrder
  · cases answers with
    | nil =>
        intro other inside
        cases inside
    | cons next answers =>
        intro other inside
        rcases List.mem_cons.mp inside with rfl | inside
        · rfl
        · exact later.failsLast other inside
  · intro all
    rw [List.map_cons, later.toTheEnd fun other inside => all other (List.mem_cons_of_mem _ inside)]

theorem Continues.answered {answer : what.Reply} {answers : List (Answered Handle)}
    {result : Except SetupError (Runtime Handle)}
    (later : Continues api (before ++ [⟨api, what, .ok answer⟩]) rest answers result) :
    Continues api before (what :: rest) (⟨api, what, .ok answer⟩ :: answers) result := by
  refine ⟨later.follows.answered, ?_, ?_⟩
  · intro other cause inside
    rcases List.mem_cons.mp inside with impossible | inside
    · cases impossible
    · exact later.failure other cause inside
  · intro all
    rw [List.append_cons]
    exact later.success fun other inside => all other (List.mem_cons_of_mem _ inside)

theorem Continues.failed (cause : NasError) :
    Continues api before (what :: rest) [⟨api, what, .error cause⟩]
      (.error (.ofNasError cause) : Except SetupError (Runtime Handle)) := by
  have fails : ¬ ∀ answered ∈ [(⟨api, what, .error cause⟩ : Answered Handle)],
      answered.succeeded = true := by
    intro all
    cases all _ List.mem_cons_self
  refine ⟨⟨?_, ⟨rest, rfl⟩, ?_, fun all => absurd all fails⟩, ?_, fun all => absurd all fails⟩
  · intro answered inside
    rw [List.mem_singleton.mp inside]
  · intro answered inside
    cases inside
  · intro other failure inside
    cases List.mem_singleton.mp inside
    rfl

theorem attempt_goes {next : what.Reply → Program Handle (SetupResult Handle)}
    (later : ∀ answer, Goes interface api (before ++ [⟨api, what, .ok answer⟩]) rest (next answer)
      (interface.after api world [what])) :
    Goes interface api before (what :: rest) (attempt entry api what next) world := by
  unfold Goes attempt Program.answers Program.run
  dsimp only
  cases (interface.call api what world).1 with
  | error cause => exact .failed cause
  | ok answer => exact .answered (later answer)

theorem withMacs_goes {next : Entry → Program Handle (SetupResult Handle)}
    (later : ∀ entry answers, (∀ domain, fetched? domain answers = none) →
      Goes interface api (before ++ answers) rest (next entry)
        (interface.after api world (addressCalls macs))) (same : entry.data.macs = macs) :
    Goes interface api before (addressCalls macs ++ rest) (withMacs entry api next) world := by
  subst same
  unfold withMacs addressCalls
  by_cases none : entry.data.macs = []
  · rw [if_pos none, if_pos (List.isEmpty_iff.mpr none)]
    rw [addressCalls, if_pos none] at later
    exact attempt_goes fun macs => later _ [⟨api, .networkMacs, .ok macs⟩] fun domain => rfl
  · rw [if_neg none, if_neg fun empty => none (List.isEmpty_iff.mp empty)]
    rw [addressCalls, if_neg none] at later
    have same := later entry [] fun domain => rfl
    rwa [List.append_nil] at same

theorem withCameras_goes {offered : List String}
    {next : Option Coordinator → Program Handle (SetupResult Handle)}
    (later : ∀ cameras answers world,
      (∀ domain, fetched? domain answers = if .cameras = domain then cameras else none) →
      Goes interface api (before ++ answers) rest (next (cameras.map (holding .cameras))) world) :
    Goes interface api before ((if cameraApi ∈ offered then [.fetch .cameras] else []) ++ rest)
      (withCameras entry api offered next) world := by
  unfold withCameras
  by_cases offers : cameraApi ∈ offered
  · rw [if_pos offers, if_pos (List.contains_iff_mem.mpr offers)]
    exact attempt_goes fun data =>
      later (some data) [⟨api, .fetch .cameras, .ok data⟩] _ fun domain => fetched?_fetch ..
  · rw [if_neg offers, if_neg fun contains => offers (List.contains_iff_mem.mp contains)]
    have same := later none [] world fun domain => (ite_self _).symm
    rwa [List.append_nil] at same

theorem withSwitches_goes {offered : List String}
    {next : Option Coordinator → Program Handle (SetupResult Handle)}
    (later : ∀ switches answers world,
      (∀ domain, fetched? domain answers = if .switches = domain then switches else none) →
      Goes interface api (before ++ answers) rest (next (switches.map (holding .switches))) world) :
    Goes interface api before
      ((if infoApi ∈ offered ∧ homeModeApi ∈ offered then [.fetch .switches, .setupSwitches]
        else []) ++ rest)
      (withSwitches entry api offered next) world := by
  unfold withSwitches
  by_cases offers : infoApi ∈ offered ∧ homeModeApi ∈ offered
  · rw [if_pos offers, if_pos (by simpa using offers)]
    refine attempt_goes fun data => attempt_goes fun prepared => ?_
    rw [List.append_assoc]
    apply later (some data)
    intro domain
    rw [fetched?_append, fetched?_fetch, fetched?_of_other (by simp), Option.or_none]
  · rw [if_neg offers, if_neg (by simpa using offers)]
    have same := later none [] world fun domain => (ite_self _).symm
    rwa [List.append_nil] at same

theorem done_goes {central : Value} {cameras switches : Option Value}
    (fetched : ∀ domain, fetched? domain before =
      match domain with
      | .central => some central
      | .cameras => cameras
      | .switches => switches) :
    Goes interface api before []
      (.done (entry, .ok {
        api, central := holding .central central, cameras := cameras.map (holding .cameras)
        switches := switches.map (holding .switches) })) world := by
  have noAnswer {answered : Answered Handle} {claim : Prop} (inside : answered ∈ []) : claim :=
    absurd inside List.not_mem_nil
  refine ⟨⟨fun _ => noAnswer, List.prefix_refl _, fun _ => noAnswer, fun _ => rfl⟩,
    fun _ _ => noAnswer, fun _ => ⟨_, rfl, rfl, fun domain => ?_⟩⟩
  change _ = (fetched? domain (before ++ [])).map (holding domain)
  rw [List.append_nil, fetched]
  cases domain <;> rfl

theorem setupEntry_goes (interface : Api Handle World) (entry : Entry) (api : Handle)
    (world : World) :
    Goes interface api [] (plan entry (interface.available api
      (interface.after api world (opening entry)))) (setupEntry entry api) world := by
  unfold plan opening
  rw [List.append_assoc, List.append_assoc, List.singleton_append]
  refine attempt_goes fun _ => withMacs_goes (fun after addresses unfetched => ?_) rfl
  refine attempt_goes fun central => ?_
  unfold Goes Program.answers Program.run Api.after
  rw [List.foldl_append, List.foldl_append]
  refine withCameras_goes fun cameras first _ fetchedFirst => ?_
  rw [← List.append_nil (ite _ _ _)]
  refine withSwitches_goes fun switches second _ fetchedSecond => done_goes fun domain => ?_
  have fetchedCentral : fetched? domain [⟨api, .fetch .central, .ok central⟩] =
      if .central = domain then some central else none := fetched?_fetch ..
  rw [fetched?_append, fetched?_append, fetched?_append, fetched?_append, unfetched, fetchedCentral,
    fetchedFirst, fetchedSecond, Option.or_none]
  cases domain with
  | central => rfl
  | cameras => exact Option.or_none
  | switches => rfl

theorem fetched?_of_succeeded {domain : Domain} {answers : List (Answered Handle)}
    (made : .fetch domain ∈ answers.map (·.what))
    (succeeded : ∀ answered ∈ answers, answered.succeeded = true) :
    ∃ data, fetched? domain answers = some data := by
  obtain ⟨⟨api, what, reply⟩, inside, rfl⟩ := List.mem_map.mp made
  cases reply with
  | error cause => cases succeeded _ inside
  | ok data =>
      refine Option.isSome_iff_exists.mp (List.findSome?_isSome_iff.mpr ⟨_, inside, ?_⟩)
      rw [Answered.fetched?, if_pos rfl, Option.isSome_some]

theorem Continues.concludes {plan : List Call} {answers : List (Answered Handle)}
    {result : Except SetupError (Runtime Handle)}
    (continues : Continues api [] plan answers result) : Concludes api plan answers result := by
  refine ⟨fun what details => continues.failure what _, fun what details => continues.failure what _,
    fun what name code => continues.failure what _, fun succeeded => ?_⟩
  obtain ⟨runtime, isOk, sameApi, holds⟩ := continues.success succeeded
  have made := continues.follows.toTheEnd succeeded
  refine ⟨runtime, isOk, sameApi, fun domain planned => ?_, fun domain unplanned => ?_⟩
  · rw [← made] at planned
    obtain ⟨data, fetched⟩ := fetched?_of_succeeded planned succeeded
    obtain ⟨other, inside⟩ := mem_of_fetched? fetched
    obtain rfl : other = api := continues.follows.onApi _ inside
    refine ⟨data, inside, ?_⟩
    rw [holds, List.nil_append, fetched]
    rfl
  · rw [holds, List.nil_append, Option.map_eq_none_iff]
    cases fetched : fetched? domain answers with
    | none => rfl
    | some data =>
        obtain ⟨other, inside⟩ := mem_of_fetched? fetched
        rw [← made] at unplanned
        exact absurd (List.mem_map_of_mem inside) unplanned

end Setup

/-- A setup makes the calls of its plan in order, each of them once, up to and including the first that
fails. When none fails, it ends with a runtime whose coordinators are those of the plan and hold what
was fetched for them. Otherwise it ends with what the failure stands for. -/
theorem setup_follows_plan (interface : Api Handle World) (entry : Entry) (api : Handle)
    (world : World) :
    let offered := interface.available api (interface.after api world (Setup.opening entry))
    let plan := Setup.plan entry offered
    let answers := (setupEntry entry api).answers interface world
    plan.Nodup ∧
      (setupEntry entry api).calls interface world =
        answers.map (fun answered => (answered.api, answered.what)) ∧
      Setup.Follows api plan answers ∧
      Setup.Concludes api plan answers ((setupEntry entry api).run interface world).1.2 := by
  intro offered plan answers
  have goes := Setup.setupEntry_goes interface entry api world
  exact ⟨Setup.plan_nodup entry offered, Program.calls_eq_answers interface _ world, goes.follows,
    goes.concludes⟩

end PresenceGateway.Nas
