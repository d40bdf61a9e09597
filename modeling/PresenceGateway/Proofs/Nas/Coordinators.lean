import Mathlib.Data.List.Nodup
import Mathlib.Data.List.Perm.Basic
import PresenceGateway.Proofs.Nas.Refreshes
/-!
What the coordinators of runtimes hold, whatever is set up, inserted, unloaded, reloaded and refreshed
in which order, and whatever the fetches are answered.

To tell coordinators apart, each setup is given a handle with a number of its own. The number takes no
part in any answer; it stays with the runtime that the setup makes and stands beside each of its
fetches. So the history of all answers says which fetches a coordinator has made, and a coordinator
serves what the last of them that succeeded has brought.
-/
namespace PresenceGateway.Nas

open Json (Value)

variable {Handle World : Type}

/-! ### Numbered handles -/

/-- A handle as one runtime uses it, with the number of the setup that made the runtime, if one did. -/
structure Numbered (Handle : Type) where
  handle : Handle
  number : Option Nat

/-- What is answered does not depend on numbers. -/
def Api.numbered (interface : Api Handle World) : Api (Numbered Handle) World where
  call := fun api what world => interface.call api.handle what world
  available := fun api world => interface.available api.handle world

def Answered.broughtTo? (number : Nat) (domain : Domain) (answered : Answered (Numbered Handle)) :
    Option Value :=
  if answered.api.number = some number then answered.fetched? domain else none

theorem Answered.broughtTo?_eq_some_iff {number : Nat} {domain : Domain} {data : Value}
    {answered : Answered (Numbered Handle)} :
    answered.broughtTo? number domain = some data ↔
      ∃ handle, answered = ⟨⟨handle, some number⟩, .fetch domain, .ok data⟩ := by
  obtain ⟨⟨handle, other⟩, what, reply⟩ := answered
  unfold broughtTo?
  constructor
  · intro brought
    split at brought
    · rename_i same
      cases same
      unfold fetched? at brought
      split at brought
      · rename_i here
        cases here
        split at brought
        · rename_i same
          cases same
          cases brought
          exact ⟨handle, rfl⟩
        · cases brought
      · cases brought
    · cases brought
  · rintro ⟨handle, same⟩
    cases same
    rw [if_pos rfl]
    exact if_pos rfl

/-- What the last fetch for a domain of a numbered runtime has brought, of those that succeeded. -/
def lastBrought? (number : Nat) (domain : Domain) (history : List (Answered (Numbered Handle))) :
    Option Value :=
  (history.filterMap (Answered.broughtTo? number domain)).getLast?

theorem lastBrought?_append (number : Nat) (domain : Domain)
    (history later : List (Answered (Numbered Handle))) :
    lastBrought? number domain (history ++ later) =
      (lastBrought? number domain later).or (lastBrought? number domain history) := by
  unfold lastBrought?
  rw [List.filterMap_append, List.getLast?_append]

theorem lastBrought?_singleton (number : Nat) (domain : Domain)
    (answered : Answered (Numbered Handle)) :
    lastBrought? number domain [answered] = answered.broughtTo? number domain := by
  unfold lastBrought?
  rw [List.filterMap_cons]
  cases answered.broughtTo? number domain <;> rfl

/-- Of calls that are made once, the only fetch for a domain is the last. -/
theorem lastBrought?_of_once {number : Nat} {domain : Domain} {handle : Handle} {data : Value}
    {answers : List (Answered (Numbered Handle))} (once : (answers.map (·.what)).Nodup)
    (inside : ⟨⟨handle, some number⟩, .fetch domain, .ok data⟩ ∈ answers) :
    lastBrought? number domain answers = some data := by
  have brought : data ∈ answers.filterMap (Answered.broughtTo? number domain) :=
    List.mem_filterMap.mpr ⟨_, inside, Answered.broughtTo?_eq_some_iff.mpr ⟨handle, rfl⟩⟩
  obtain ⟨last, isLast⟩ := Option.isSome_iff_exists.mp
    (List.getLast?_isSome.mpr (List.ne_nil_of_mem brought))
  obtain ⟨answered, made, answers⟩ := List.mem_filterMap.mp (List.mem_of_getLast? isLast)
  obtain ⟨other, rfl⟩ := Answered.broughtTo?_eq_some_iff.mp answers
  have same := List.inj_on_of_nodup_map once inside made rfl
  cases same
  exact isLast

def Silent (number : Nat) (answers : List (Answered (Numbered Handle))) : Prop :=
  ∀ answered ∈ answers, ∀ domain, answered.broughtTo? number domain = none

theorem silent_nil (number : Nat) : Silent number ([] : List (Answered (Numbered Handle))) :=
  fun _ inside => absurd inside List.not_mem_nil

theorem silent_of_number {number : Nat} {answers : List (Answered (Numbered Handle))}
    (others : ∀ answered ∈ answers, answered.api.number ≠ some number) : Silent number answers :=
  fun answered inside _ => if_neg (others answered inside)

theorem silent_of_unload {number : Nat} {answers : List (Answered (Numbered Handle))}
    (unloads : ∀ answered ∈ answers, answered.what = .unload) : Silent number answers := by
  intro answered inside domain
  rw [Option.eq_none_iff_forall_ne_some]
  intro data brought
  obtain ⟨handle, rfl⟩ := Answered.broughtTo?_eq_some_iff.mp brought
  cases unloads _ inside

theorem lastBrought?_of_silent {number : Nat} {later : List (Answered (Numbered Handle))}
    (silent : Silent number later) (domain : Domain)
    (history : List (Answered (Numbered Handle))) :
    lastBrought? number domain (history ++ later) = lastBrought? number domain history := by
  have nothing : lastBrought? number domain later = none := by
    unfold lastBrought?
    rw [List.filterMap_eq_nil_iff.mpr fun answered inside => silent answered inside domain,
      List.getLast?_nil]
  rw [lastBrought?_append, nothing, Option.none_or]

/-! ### What a coordinator serves -/

/-- Each coordinator of a runtime stands for its domain and holds what was brought last for it. -/
def Runtime.Serves (number : Nat) (history : List (Answered (Numbered Handle)))
    (runtime : Runtime (Numbered Handle)) : Prop :=
  ∀ domain coordinator, runtime.coordinator? domain = some coordinator →
    coordinator.domain = domain ∧ ∃ data, coordinator.data = some data ∧
      lastBrought? number domain history = some data

theorem Runtime.Serves.of_silent {number : Nat} {history later : List (Answered (Numbered Handle))}
    {runtime : Runtime (Numbered Handle)} (serves : runtime.Serves number history)
    (silent : Silent number later) : runtime.Serves number (history ++ later) := by
  intro domain coordinator found
  rw [lastBrought?_of_silent silent]
  exact serves domain coordinator found

/-- A coordinator that was refreshed holds what the fetch has brought, or what it held if the fetch
failed, and the others of its runtime have fetched nothing. -/
theorem Runtime.Serves.of_refresh {number : Nat} {history : List (Answered (Numbered Handle))}
    {runtime : Runtime (Numbered Handle)} {domain : Domain} {coordinator : Coordinator}
    (serves : runtime.Serves number history) (found : runtime.coordinator? domain = some coordinator)
    (handle : Handle) (reply : Except NasError Value) :
    (runtime.withCoordinator domain (coordinator.receive reply)).Serves number
      (history ++ [⟨⟨handle, some number⟩, .fetch coordinator.domain, reply⟩]) := by
  obtain ⟨ownDomain, data, holds, last⟩ := serves domain coordinator found
  intro other now foundNow
  rw [coordinator?_withCoordinator, Option.map_eq_some_iff] at foundNow
  obtain ⟨old, foundOld, rfl⟩ := foundNow
  by_cases same : domain = other
  · subst same
    obtain rfl : coordinator = old := Option.some.inj (found.symm.trans foundOld)
    rw [if_pos rfl, lastBrought?_append, lastBrought?_singleton]
    cases reply with
    | error cause =>
        refine ⟨ownDomain, data, holds, ?_⟩
        rw [last]
        exact congrArg (Option.or · _) (ite_self none)
    | ok brought =>
        refine ⟨ownDomain, brought, rfl, ?_⟩
        rw [Answered.broughtTo?_eq_some_iff.mpr ⟨handle, by rw [ownDomain]⟩, Option.some_or]
  · rw [if_neg same]
    have silent : (Answered.mk ⟨handle, some number⟩ (.fetch coordinator.domain)
        reply).broughtTo? number other = none := by
      rw [Option.eq_none_iff_forall_ne_some]
      intro brought here
      obtain ⟨_, made⟩ := Answered.broughtTo?_eq_some_iff.mp here
      have asked : Call.fetch coordinator.domain = .fetch other := congrArg Answered.what made
      exact same (ownDomain.symm.trans (Call.fetch.inj asked))
    rw [lastBrought?_append, lastBrought?_singleton, silent, Option.none_or]
    exact serves other old foundOld

/-- The runtime that a numbered setup has made serves what the setup has fetched. -/
theorem serves_of_setup {interface : Api Handle World} {entry : Entry} {api : Handle} {number : Nat}
    {world : World} {runtime : Runtime (Numbered Handle)}
    (succeeded : ((setupEntry entry (Numbered.mk api (some number))).run interface.numbered
      world).1.2 = .ok runtime) (history : List (Answered (Numbered Handle))) :
    runtime.Serves number
      (history ++ (setupEntry entry ⟨api, some number⟩).answers interface.numbered world) := by
  intro domain coordinator found
  have follows := (Setup.setupEntry_goes interface.numbered entry ⟨api, some number⟩ world).follows
  rw [(runtime_of_setup succeeded).2, Option.map_eq_some_iff] at found
  obtain ⟨data, fetched, rfl⟩ := found
  refine ⟨rfl, data, rfl, ?_⟩
  obtain ⟨handle, inside⟩ := mem_of_fetched? fetched
  obtain rfl := follows.onApi _ inside
  rw [lastBrought?_append,
    lastBrought?_of_once (setupEntry_asks_once interface.numbered entry _ world) inside,
    Option.some_or]

/-! ### What is held -/

/-- The runtimes that are there: those in a registry, and those outside it. -/
structure Stock (Handle : Type) where
  registry : Registry (Numbered Handle)
  loose : List (Runtime (Numbered Handle))

/-- Where a runtime is: in the registry under an id, or outside it at some position. -/
inductive Place where
  | registered (id : String)
  | loose (position : Nat)

namespace Stock

def all (stock : Stock Handle) : List (Runtime (Numbered Handle)) :=
  stock.registry.held ++ stock.loose

def runtime? (stock : Stock Handle) : Place → Option (Runtime (Numbered Handle))
  | .registered id => stock.registry.get? id
  | .loose position => stock.loose[position]?

def coordinator? (stock : Stock Handle) (place : Place) (domain : Domain) : Option Coordinator :=
  (stock.runtime? place).bind (·.coordinator? domain)

def others (stock : Stock Handle) : Place → List (Runtime (Numbered Handle))
  | .registered id => (stock.registry.erase id).held ++ stock.loose
  | .loose position => stock.registry.held ++ stock.loose.eraseIdx position

def withCoordinator (stock : Stock Handle) (place : Place) (domain : Domain)
    (coordinator : Coordinator) : Stock Handle :=
  match place with
  | .registered id =>
    { stock with registry := stock.registry.withCoordinator id domain coordinator }
  | .loose position =>
    { stock with loose := stock.loose.modify position (·.withCoordinator domain coordinator) }

variable {stock : Stock Handle} {place : Place} {runtime : Runtime (Numbered Handle)}

theorem all_perm (distinct : stock.registry.ids.Nodup)
    (found : stock.runtime? place = some runtime) : stock.all.Perm (runtime :: stock.others place) := by
  cases place with
  | registered id =>
      have split := Registry.held_perm distinct id
      rw [show stock.registry.get? id = some runtime from found] at split
      exact split.append_right stock.loose
  | loose position =>
      obtain ⟨within, rfl⟩ := List.getElem?_eq_some_iff.mp found
      exact ((List.getElem_cons_eraseIdx_perm within).symm.append_left _).trans List.perm_middle

theorem all_withCoordinator (found : stock.runtime? place = some runtime) (domain : Domain)
    (coordinator : Coordinator) :
    (stock.withCoordinator place domain coordinator).all.Perm
      (runtime.withCoordinator domain coordinator :: stock.others place) := by
  cases place with
  | registered id =>
      unfold withCoordinator Registry.withCoordinator
      dsimp only
      rw [show stock.registry.get? id = some runtime from found]
      exact .refl _
  | loose position =>
      obtain ⟨within, rfl⟩ := List.getElem?_eq_some_iff.mp found
      unfold withCoordinator all
      dsimp only
      rw [List.modify_eq_set_getElem?, List.getElem?_eq_getElem within]
      exact ((List.set_perm_cons_eraseIdx within _).append_left _).trans List.perm_middle

theorem runtime?_withCoordinator_self (stock : Stock Handle) (place : Place) (domain : Domain)
    (coordinator : Coordinator) :
    (stock.withCoordinator place domain coordinator).runtime? place =
      (stock.runtime? place).map (·.withCoordinator domain coordinator) := by
  cases place with
  | registered id =>
      exact (stock.registry.get?_withCoordinator id id domain coordinator).trans (if_pos rfl)
  | loose position => exact List.getElem?_modify_eq ..

theorem runtime?_withCoordinator_of_ne {other : Place} (different : other ≠ place) (domain : Domain)
    (coordinator : Coordinator) :
    (stock.withCoordinator place domain coordinator).runtime? other = stock.runtime? other := by
  cases place with
  | registered id =>
      cases other with
      | registered key =>
          have other : key ≠ id := fun same => different (congrArg Place.registered same)
          exact (stock.registry.get?_withCoordinator id key domain coordinator).trans (if_neg other)
      | loose index => rfl
  | loose position =>
      cases other with
      | registered key => rfl
      | loose index =>
          have other : position ≠ index := fun same => different (congrArg Place.loose same.symm)
          exact List.getElem?_modify_ne _ _ other

theorem coordinator?_withCoordinator_self (stock : Stock Handle) (place : Place) (domain : Domain)
    (coordinator : Coordinator) :
    (stock.withCoordinator place domain coordinator).coordinator? place domain =
      (stock.coordinator? place domain).map fun _ => coordinator := by
  unfold coordinator?
  rw [runtime?_withCoordinator_self]
  cases stock.runtime? place with
  | none => rfl
  | some runtime =>
      rw [Option.map_some, Option.bind_some, Option.bind_some, Runtime.coordinator?_withCoordinator]
      simp only [if_true]

theorem coordinator?_withCoordinator_of_ne (stock : Stock Handle) {other place : Place}
    {key domain : Domain} (different : (other, key) ≠ (place, domain)) (coordinator : Coordinator) :
    (stock.withCoordinator place domain coordinator).coordinator? other key =
      stock.coordinator? other key := by
  unfold coordinator?
  by_cases same : other = place
  · subst same
    have otherKey : domain ≠ key := fun equal => different (congrArg (other, ·) equal.symm)
    rw [runtime?_withCoordinator_self]
    cases stock.runtime? other with
    | none => rfl
    | some runtime =>
        rw [Option.map_some, Option.bind_some, Option.bind_some,
          Runtime.coordinator?_withCoordinator]
        simp only [if_neg otherKey, Option.map_id']
  · rw [runtime?_withCoordinator_of_ne same]

end Stock

/-! ### Steps -/

/-- What can be done with runtimes. A setup leaves its runtime outside the registry, an insertion moves
one in, and what leaves the registry is outside again. Any coordinator can be refreshed, on any
interface; so can those of runtimes that no setup has made. -/
inductive Step (Handle : Type) where
  | setUp (entry : Entry) (api : Handle)
  | bring (runtime : Runtime Handle)
  | insert (id : String) (position : Nat)
  | unload (id : String)
  | reload (entry : Entry) (api : Handle)
  | refresh (place : Place) (domain : Domain) (api : Handle)

def Runtime.unnumbered (runtime : Runtime Handle) : Runtime (Numbered Handle) :=
  { api := ⟨runtime.api, none⟩
    central := runtime.central, cameras := runtime.cameras, switches := runtime.switches }

/-- What a step does with a stock. Its number is that of the setup it makes. -/
def Step.program (number : Nat) (stock : Stock Handle) :
    Step Handle → Program (Numbered Handle) (Stock Handle)
  | setUp entry api =>
    (setupEntry entry (Numbered.mk api (some number))).bind fun ended =>
      .done { stock with loose := ended.2.toOption.toList ++ stock.loose }
  | bring runtime => .done { stock with loose := runtime.unnumbered :: stock.loose }
  | insert id position =>
    match stock.loose[position]? with
    | none => .done stock
    | some runtime =>
      .done {
        registry := stock.registry.insert id runtime
        loose := (stock.registry.get? id).toList ++ stock.loose.eraseIdx position }
  | unload id =>
    (stock.registry.unload id).bind fun outcome =>
      .done {
        registry := outcome.2
        loose := (stock.registry.get? id).toList ++ stock.loose }
  | reload entry api =>
    (stock.registry.reload entry (Numbered.mk api (some number))).bind fun outcome =>
      .done {
        registry := outcome.registry
        loose := (stock.registry.get? entry.uniqueId).toList ++ stock.loose }
  | refresh place domain api =>
    match stock.runtime? place with
    | none => .done stock
    | some runtime =>
      match runtime.coordinator? domain with
      | none => .done stock
      | some coordinator =>
        (coordinator.refresh (Numbered.mk api runtime.api.number)).bind fun outcome =>
          .done (stock.withCoordinator place domain outcome.2)

/-- What a step does to all runtimes together, by its number and the answers to its calls: it adds one
at most, made by itself or by no setup, or one coordinator takes in the answer to its fetch. -/
inductive Changes (number : Nat) (answers : List (Answered (Numbered Handle)))
    (before after : List (Runtime (Numbered Handle))) : Prop where
  | adds (runtime : Option (Runtime (Numbered Handle)))
      (silent : ∀ other, other ≠ number → Silent other answers)
      (made : ∀ new ∈ runtime, new.api.number = none ∨
        new.api.number = some number ∧ ∀ history, new.Serves number (history ++ answers))
      (all : after.Perm (runtime.toList ++ before))
  | refreshes (runtime : Runtime (Numbered Handle)) (others : List (Runtime (Numbered Handle)))
      (domain : Domain) (coordinator : Coordinator) (handle : Handle) (reply : Except NasError Value)
      (found : runtime.coordinator? domain = some coordinator)
      (asked : answers = [⟨⟨handle, runtime.api.number⟩, .fetch coordinator.domain, reply⟩])
      (was : before.Perm (runtime :: others))
      (now : after.Perm (runtime.withCoordinator domain (coordinator.receive reply) :: others))

theorem Changes.nothing {number : Nat} {before after : List (Runtime (Numbered Handle))}
    (same : after.Perm before) : Changes number [] before after :=
  .adds none (fun other _ => silent_nil other) (fun _ impossible => by cases impossible) same

namespace Step

variable (interface : Api Handle World) {stock : Stock Handle}

theorem silent_setup (entry : Entry) (api : Handle) {number other : Nat} (different : other ≠ number)
    (world : World) :
    Silent other ((setupEntry entry (Numbered.mk api (some number))).answers interface.numbered
      world) := by
  have follows := (Setup.setupEntry_goes interface.numbered entry ⟨api, some number⟩ world).follows
  refine silent_of_number fun answered inside => ?_
  rw [follows.onApi answered inside]
  exact fun same => different (Option.some.inj same).symm

theorem made_of_setup (entry : Entry) (api : Handle) (number : Nat) (world : World) :
    ∀ new ∈ ((setupEntry entry (Numbered.mk api (some number))).run interface.numbered
        world).1.2.toOption,
      new.api.number = some number ∧ ∀ history, new.Serves number (history ++
        (setupEntry entry ⟨api, some number⟩).answers interface.numbered world) := by
  intro new made
  have succeeded : ((setupEntry entry (Numbered.mk api (some number))).run interface.numbered
      world).1.2 = .ok new := by
    cases ended : ((setupEntry entry (Numbered.mk api (some number))).run interface.numbered
        world).1.2 with
    | error cause =>
        rw [ended] at made
        cases made
    | ok runtime =>
        rw [ended] at made
        cases made
        rfl
  refine ⟨?_, serves_of_setup succeeded⟩
  rw [(runtime_of_setup succeeded).1]

/-- Binding an id moves the runtime that it was bound to out of the registry. -/
theorem all_rebind {registry : Registry (Numbered Handle)} (distinct : registry.ids.Nodup)
    (id : String) (bound : Option (Runtime (Numbered Handle)))
    (loose : List (Runtime (Numbered Handle))) :
    (Stock.all ⟨registry.rebind id bound, (registry.get? id).toList ++ loose⟩).Perm
      (bound.toList ++ Stock.all ⟨registry, loose⟩) := by
  have moved := (Registry.held_rebind_perm distinct id bound).symm.append_right loose
  rw [List.append_assoc, List.append_assoc] at moved
  exact (List.perm_append_comm_assoc ..).trans moved

theorem changes (distinct : stock.registry.ids.Nodup) (number : Nat) (world : World)
    (step : Step Handle) :
    Changes number ((step.program number stock).answers interface.numbered world) stock.all
      ((step.program number stock).run interface.numbered world).1.all := by
  cases step with
  | setUp entry api =>
      rw [program, Program.answers_bind, Program.run_bind, Program.answers, List.append_nil]
      exact .adds _ (fun other different => silent_setup interface entry api different world)
        (fun new made => .inr (made_of_setup interface entry api number world new made))
        (List.perm_append_comm_assoc ..)
  | bring runtime =>
      refine .adds (some runtime.unnumbered) (fun other _ => silent_nil other) ?_ List.perm_middle
      intro new same
      cases same
      exact .inl rfl
  | insert id position =>
      rw [program]
      cases found : stock.loose[position]? with
      | none => exact .nothing (.refl _)
      | some runtime =>
          have inside : stock.all.Perm (runtime :: stock.others (.loose position)) :=
            Stock.all_perm distinct found
          exact .nothing ((all_rebind distinct id (some runtime) _).trans inside.symm)
  | unload id =>
      rw [program, Program.answers_bind, Program.run_bind, Program.answers, List.append_nil,
        Registry.unload_run]
      exact .adds none
        (fun other _ => silent_of_unload (Registry.unload_answers _ _ id world))
        (fun _ impossible => by cases impossible) (all_rebind distinct id none stock.loose)
  | reload entry api =>
      rw [program, Program.answers_bind, Program.run_bind, Program.answers, List.append_nil,
        Registry.reload_run, Registry.reload_answers]
      refine .adds _ (fun other different => ?_) (fun new made => .inr ?_)
        (all_rebind distinct entry.uniqueId _ stock.loose)
      · exact List.forall_mem_append.mpr
          ⟨silent_of_unload (Registry.unload_answers _ _ _ world),
            silent_setup interface entry api different _⟩
      · obtain ⟨own, serves⟩ := made_of_setup interface entry api number _ new made
        refine ⟨own, fun history => ?_⟩
        rw [← List.append_assoc]
        exact serves _
  | refresh place domain api =>
      rw [program]
      cases found : stock.runtime? place with
      | none => exact .nothing (.refl _)
      | some runtime =>
          dsimp only
          cases here : runtime.coordinator? domain with
          | none => exact .nothing (.refl _)
          | some coordinator =>
              exact .refreshes runtime (stock.others place) domain coordinator api _ here rfl
                (Stock.all_perm distinct found)
                (Stock.all_withCoordinator found domain (coordinator.receive _))

theorem ids_nodup (distinct : stock.registry.ids.Nodup) (number : Nat) (world : World)
    (step : Step Handle) :
    ((step.program number stock).run interface.numbered world).1.registry.ids.Nodup := by
  cases step with
  | setUp entry api =>
      rw [program, Program.run_bind]
      exact distinct
  | bring runtime => exact distinct
  | insert id position =>
      rw [program]
      cases stock.loose[position]? with
      | none => exact distinct
      | some runtime => exact Registry.ids_insert_nodup distinct id runtime
  | unload id =>
      rw [program, Program.run_bind, Registry.unload_run]
      exact Registry.ids_erase_nodup distinct id
  | reload entry api =>
      rw [program, Program.run_bind, Registry.reload_run]
      exact Registry.ids_rebind_nodup distinct entry.uniqueId _
  | refresh place domain api =>
      rw [program]
      cases stock.runtime? place with
      | none => exact distinct
      | some runtime =>
          dsimp only
          cases runtime.coordinator? domain with
          | none => exact distinct
          | some coordinator =>
              cases place with
              | registered id => exact Registry.ids_withCoordinator_nodup distinct id domain _
              | loose position => exact distinct

end Step

/-! ### Whole courses -/

/-- What is held in the course of some steps, the world, how many steps were made, and all answers. -/
structure Course (Handle World : Type) where
  stock : Stock Handle
  world : World
  count : Nat
  history : List (Answered (Numbered Handle))

namespace Course

def start (world : World) : Course Handle World :=
  { stock := ⟨.empty, []⟩, world, count := 0, history := [] }

variable (interface : Api Handle World)

def perform (step : Step Handle) (c : Course Handle World) : Course Handle World :=
  let program := step.program c.count c.stock
  let outcome := program.run interface.numbered c.world
  { stock := outcome.1, world := outcome.2, count := c.count + 1
    history := c.history ++ program.answers interface.numbered c.world }

def after (c : Course Handle World) (steps : List (Step Handle)) : Course Handle World :=
  steps.foldl (fun c step => c.perform interface step) c

/-- What holds of all runtimes in a course: no two have one number, their numbers are of steps made so
far, and those that have one serve what they have fetched. -/
structure Sound (c : Course Handle World) : Prop where
  ids : c.stock.registry.ids.Nodup
  numbers : (c.stock.all.filterMap (·.api.number)).Nodup
  earlier : ∀ runtime ∈ c.stock.all, ∀ number, runtime.api.number = some number →
    number < c.count
  serves : ∀ runtime ∈ c.stock.all, ∀ number, runtime.api.number = some number →
    runtime.Serves number c.history

theorem sound_start (world : World) : (start world : Course Handle World).Sound := by
  refine ⟨List.nodup_nil, List.nodup_nil, ?_, ?_⟩
  · exact fun _ impossible => absurd impossible List.not_mem_nil
  · exact fun _ impossible => absurd impossible List.not_mem_nil

variable {interface} {c : Course Handle World}

theorem Sound.of_adds (sound : c.Sound) {now : Stock Handle} (ids : now.registry.ids.Nodup)
    (world : World) {answers : List (Answered (Numbered Handle))}
    (added : Option (Runtime (Numbered Handle)))
    (silent : ∀ other, other ≠ c.count → Silent other answers)
    (made : ∀ new ∈ added, new.api.number = none ∨
      new.api.number = some c.count ∧ ∀ history, new.Serves c.count (history ++ answers))
    (all : now.all.Perm (added.toList ++ c.stock.all)) :
    (Course.mk now world (c.count + 1) (c.history ++ answers)).Sound := by
  have each (runtime : Runtime (Numbered Handle)) (inside : runtime ∈ now.all) (number : Nat)
      (own : runtime.api.number = some number) :
      number < c.count + 1 ∧ runtime.Serves number (c.history ++ answers) := by
    rcases List.mem_append.mp (all.mem_iff.mp inside) with new | old
    · rcases made runtime (Option.mem_toList.mp new) with unnumbered | ⟨numbered, serves⟩
      · rw [unnumbered] at own
        cases own
      · rw [numbered] at own
        cases own
        exact ⟨Nat.lt_succ_self _, serves c.history⟩
    · have before := sound.earlier runtime old number own
      exact ⟨Nat.lt_succ_of_lt before,
        (sound.serves runtime old number own).of_silent (silent number (Nat.ne_of_lt before))⟩
  refine ⟨ids, ?_, fun runtime inside number own => (each runtime inside number own).1,
    fun runtime inside number own => (each runtime inside number own).2⟩
  -- A new number is the count of steps, and those that are there are all below it.
  rw [(all.filterMap _).nodup_iff, List.filterMap_append]
  cases added with
  | none => exact sound.numbers
  | some new =>
      rw [Option.toList_some, List.filterMap_cons, List.filterMap_nil]
      rcases made new rfl with unnumbered | ⟨own, -⟩
      · rw [unnumbered]
        exact sound.numbers
      · rw [own]
        refine List.nodup_cons.mpr ⟨fun taken => ?_, sound.numbers⟩
        obtain ⟨runtime, inside, same⟩ := List.mem_filterMap.mp taken
        exact Nat.lt_irrefl _ (sound.earlier runtime inside c.count same)

theorem Sound.of_refreshes (sound : c.Sound) {now : Stock Handle} (ids : now.registry.ids.Nodup)
    (world : World) {runtime : Runtime (Numbered Handle)}
    {others : List (Runtime (Numbered Handle))} {domain : Domain} {coordinator : Coordinator}
    (handle : Handle) (reply : Except NasError Value)
    (found : runtime.coordinator? domain = some coordinator)
    (before : c.stock.all.Perm (runtime :: others))
    (after : now.all.Perm
      (runtime.withCoordinator domain (coordinator.receive reply) :: others)) :
    (Course.mk now world (c.count + 1) (c.history ++
      [⟨⟨handle, runtime.api.number⟩, .fetch coordinator.domain, reply⟩])).Sound := by
  have numbers := sound.numbers
  rw [(before.filterMap _).nodup_iff] at numbers
  have api : (runtime.withCoordinator domain (coordinator.receive reply)).api = runtime.api :=
    Runtime.withCoordinator_api ..
  have each (other : Runtime (Numbered Handle)) (inside : other ∈ now.all) (number : Nat)
      (own : other.api.number = some number) :
      number < c.count + 1 ∧ other.Serves number (c.history ++
        [⟨⟨handle, runtime.api.number⟩, .fetch coordinator.domain, reply⟩]) := by
    rcases List.mem_cons.mp (after.mem_iff.mp inside) with rfl | inside
    · have self : runtime ∈ c.stock.all := before.mem_iff.mpr List.mem_cons_self
      rw [api] at own
      rw [own]
      exact ⟨Nat.lt_succ_of_lt (sound.earlier runtime self number own),
        (sound.serves runtime self number own).of_refresh found handle reply⟩
    · have kept : other ∈ c.stock.all := before.mem_iff.mpr (List.mem_cons_of_mem _ inside)
      -- The fetch stands under the number of the refreshed runtime, which this one does not have.
      refine ⟨Nat.lt_succ_of_lt (sound.earlier other kept number own),
        (sound.serves other kept number own).of_silent (silent_of_number ?_)⟩
      intro answered fetch same
      obtain rfl := List.mem_singleton.mp fetch
      rw [List.filterMap_cons, show runtime.api.number = some number from same] at numbers
      exact (List.nodup_cons.mp numbers).1 (List.mem_filterMap.mpr ⟨other, inside, own⟩)
  refine ⟨ids, ?_, fun other inside number own => (each other inside number own).1,
    fun other inside number own => (each other inside number own).2⟩
  rw [(after.filterMap _).nodup_iff, List.filterMap_cons, api]
  rwa [List.filterMap_cons] at numbers

theorem Sound.perform (sound : c.Sound) (step : Step Handle) : (c.perform interface step).Sound := by
  have ids := Step.ids_nodup interface sound.ids c.count c.world step
  cases Step.changes interface sound.ids c.count c.world step with
  | adds added silent made all => exact sound.of_adds ids _ added silent made all
  | refreshes runtime others domain coordinator handle reply found asked was now =>
      unfold Course.perform
      dsimp only
      rw [asked]
      exact sound.of_refreshes ids _ handle reply found was now

theorem Sound.after (sound : c.Sound) (steps : List (Step Handle)) :
    (c.after interface steps).Sound := by
  induction steps generalizing c with
  | nil => exact sound
  | cons step later ih => exact ih (sound.perform step)

/-- What a refresh of the coordinator at some place has done, by what its fetch was answered. A failure
changes no coordinator. A success puts what was fetched into this one and leaves all others alone. -/
structure Refreshed (before after : Stock Handle) (place : Place) (domain : Domain)
    (coordinator : Coordinator) (reply : Except NasError Value) : Prop where
  failed : ∀ cause, reply = .error cause →
    ∀ other key, after.coordinator? other key = before.coordinator? other key
  succeeded : ∀ data, reply = .ok data →
    after.coordinator? place domain = some { coordinator with data := some data }
  others : ∀ other key, (other, key) ≠ (place, domain) →
    after.coordinator? other key = before.coordinator? other key

theorem refreshed_withCoordinator {stock : Stock Handle} {place : Place} {domain : Domain}
    {coordinator : Coordinator} (found : stock.coordinator? place domain = some coordinator)
    (reply : Except NasError Value) :
    Refreshed stock (stock.withCoordinator place domain (coordinator.receive reply)) place domain
      coordinator reply := by
  have self : (stock.withCoordinator place domain (coordinator.receive reply)).coordinator? place
      domain = some (coordinator.receive reply) := by
    rw [stock.coordinator?_withCoordinator_self, found, Option.map_some]
  have others (other : Place) (key : Domain) (different : (other, key) ≠ (place, domain)) :=
    stock.coordinator?_withCoordinator_of_ne different (coordinator.receive reply)
  refine ⟨?_, ?_, others⟩
  · rintro cause rfl other key
    by_cases same : (other, key) = (place, domain)
    · cases same
      exact self.trans found.symm
    · exact others other key same
  · rintro data rfl
    exact self

/-- What holds in a course of what is registered and of what a refresh would do. The coordinators of a
registered runtime that a setup has made have data, what each of them has fetched last, and no other
runtime has the number that tells their fetches from others. -/
structure Serving (interface : Api Handle World) (c : Course Handle World) : Prop where
  registered : ∀ id runtime, c.stock.registry.get? id = some runtime →
    ∀ number, runtime.api.number = some number → runtime.Serves number c.history
  numbers : (c.stock.all.filterMap (·.api.number)).Nodup
  refreshed : ∀ place domain api coordinator, c.stock.coordinator? place domain = some coordinator →
    Refreshed c.stock (c.perform interface (.refresh place domain api)).stock place domain coordinator
      (interface.call api (.fetch coordinator.domain) c.world).1

theorem perform_refresh {place : Place} {domain : Domain} {coordinator : Coordinator}
    (found : c.stock.coordinator? place domain = some coordinator) (api : Handle) :
    (c.perform interface (.refresh place domain api)).stock =
      c.stock.withCoordinator place domain
        (coordinator.receive (interface.call api (.fetch coordinator.domain) c.world).1) := by
  obtain ⟨runtime, held, here⟩ := Option.bind_eq_some_iff.mp found
  unfold Course.perform Step.program
  dsimp only
  rw [held]
  dsimp only
  rw [here]
  rfl

theorem Sound.serving (sound : c.Sound) : c.Serving interface := by
  refine ⟨?_, sound.numbers, ?_⟩
  · intro id runtime found
    have inside : c.stock.all.Perm (runtime :: c.stock.others (.registered id)) :=
      Stock.all_perm sound.ids found
    exact sound.serves runtime (inside.mem_iff.mpr List.mem_cons_self)
  · intro place domain api coordinator found
    rw [perform_refresh found]
    exact refreshed_withCoordinator found _

end Course

/-- However runtimes are set up, brought, inserted, unloaded, reloaded and refreshed, and whatever the
calls for it are answered, each coordinator of a registered runtime that a setup has made serves the
data of its last fetch that succeeded. -/
theorem coordinators_serve_last_data (interface : Api Handle World) (world : World)
    (steps : List (Step Handle)) :
    ((Course.start world).after interface steps).Serving interface :=
  ((Course.sound_start world).after steps).serving

end PresenceGateway.Nas
