import Mathlib.Data.List.Nodup
import PresenceGateway.Proofs.Nas.Attempts
import PresenceGateway.Proofs.Nas.Migration
/-!
What setups do to their entry, one after the other and whatever they are answered.

A setup leaves its entry brought up to date, and with the network addresses that it was told if the entry
had none. Bringing it up to date again changes nothing, and an entry with addresses is never told
any. So the first attempt settles the devices and the check of certificates, and the first that is told
some addresses settles them; all else stays as it was.
-/
namespace PresenceGateway.Nas

variable {Handle World : Type}

/-! ### One setup -/

def Answered.macs? : Answered Handle → Option (List String)
  | ⟨_, .networkMacs, .ok macs⟩ => some macs
  | _ => none

def macs? (answers : List (Answered Handle)) : Option (List String) :=
  answers.findSome? Answered.macs?

theorem mem_of_macs? {answers : List (Answered Handle)} {macs : List String}
    (told : macs? answers = some macs) : ∃ api, ⟨api, .networkMacs, .ok macs⟩ ∈ answers := by
  obtain ⟨⟨api, what, reply⟩, inside, here⟩ := List.exists_of_findSome?_eq_some told
  unfold Answered.macs? at here
  split at here
  · rename_i same
    cases same
    cases here
    exact ⟨_, inside⟩
  · cases here

/-- An entry after a setup, by what the setup was answered. -/
def Entry.learning (entry : Entry) (answers : List (Answered Handle)) : Entry :=
  { entry.migrated with
    data := { entry.migrated.data with
      macs := if entry.data.macs = [] then (macs? answers).getD [] else entry.data.macs } }

theorem setupEntry_entry (interface : Api Handle World) (entry : Entry) (api : Handle)
    (world : World) :
    ((setupEntry entry api).run interface world).1.1 =
      entry.learning ((setupEntry entry api).answers interface world) := by
  have rest (entry : Entry) (world : World) :
      ((Setup.afterMacs entry api).run interface world).1.1 = entry :=
    (Setup.afterMacs_keeps (· = entry) rfl).run interface world
  have unchanged : { entry.migrated with
      data := { entry.migrated.data with macs := entry.data.macs } } = entry.migrated := rfl
  have next (entry : Entry) : Setup.afterLogin entry api =
      Setup.withMacs entry api fun entry => Setup.afterMacs entry api := rfl
  rw [setupEntry_eq, Program.run, Program.answers]
  unfold Entry.learning
  dsimp only
  by_cases unknown : entry.data.macs = []
  · rw [if_pos unknown]
    cases (interface.call api .setup world).1 with
    | error cause =>
        rw [← unchanged, unknown]
        rfl
    | ok opened =>
        have empty : entry.migrated.data.macs.isEmpty = true := List.isEmpty_iff.mpr unknown
        rw [Setup.answered, next, Setup.withMacs, if_pos empty, Setup.attempt, Program.run,
          Program.answers]
        dsimp only
        cases (interface.call api .networkMacs (interface.call api .setup world).2).1 with
        | error cause =>
            rw [← unchanged, unknown]
            rfl
        | ok macs => exact rest _ _
  · rw [if_neg unknown, unchanged]
    cases (interface.call api .setup world).1 with
    | error cause => rfl
    | ok opened =>
        have known : ¬ entry.migrated.data.macs.isEmpty = true :=
          fun empty => unknown (List.isEmpty_iff.mp empty)
        rw [Setup.answered, next, Setup.withMacs, if_neg known]
        exact rest _ _

namespace Setup

variable {interface : Api Handle World} {entry : Entry} {api : Handle} {world : World}

theorem networkMacs_mem_plan {offered : List String} :
    .networkMacs ∈ plan entry offered ↔ entry.data.macs = [] := by
  unfold plan opening addressCalls extras
  split <;> split <;> split <;> simp_all

/-- A setup asks for addresses only if its entry has none. -/
theorem macs_of_asked {answered : Answered Handle}
    (made : answered ∈ (setupEntry entry api).answers interface world)
    (asks : answered.what = .networkMacs) : entry.data.macs = [] := by
  have follows := (setupEntry_goes interface entry api world).follows
  have planned := follows.inOrder.subset (List.mem_map_of_mem made)
  rw [asks] at planned
  exact networkMacs_mem_plan.mp planned

/-- A setup asks for addresses once at most, so what it is told is what that call was answered. -/
theorem macs?_eq_some_iff {macs : List String} :
    macs? ((setupEntry entry api).answers interface world) = some macs ↔
      ⟨api, .networkMacs, .ok macs⟩ ∈ (setupEntry entry api).answers interface world := by
  have follows := (setupEntry_goes interface entry api world).follows
  have inside {macs : List String}
      (told : macs? ((setupEntry entry api).answers interface world) = some macs) :
      ⟨api, .networkMacs, .ok macs⟩ ∈ (setupEntry entry api).answers interface world := by
    obtain ⟨handle, inside⟩ := mem_of_macs? told
    obtain rfl : handle = api := follows.onApi _ inside
    exact inside
  refine ⟨inside, fun answers => ?_⟩
  obtain ⟨other, told⟩ : ∃ other,
      macs? ((setupEntry entry api).answers interface world) = some other :=
    Option.isSome_iff_exists.mp (List.findSome?_isSome_iff.mpr ⟨_, answers, rfl⟩)
  have same := List.inj_on_of_nodup_map (setupEntry_asks_once interface entry api world) answers
    (inside told) rfl
  cases same
  exact told

end Setup

/-- Nothing but the devices' identifiers, the check of certificates and the network addresses differs
between two entries. -/
structure Entry.SameAccount (now first : Entry) : Prop where
  entryId : now.entryId = first.entryId
  uniqueId : now.uniqueId = first.uniqueId
  host : now.data.host = first.data.host
  port : now.data.port = first.data.port
  useHttps : now.data.useHttps = first.data.useHttps
  username : now.data.username = first.data.username
  password : now.data.password = first.data.password
  deviceIds : now.devices.map (·.id) = first.devices.map (·.id)

/-! ### One setup after the other -/

/-- Setups of one entry, each on an interface of its own: what answers them, their interfaces, and the
entry and the world that the first one finds. -/
structure Series (Handle World : Type) where
  interface : Api Handle World
  apis : Nat → Handle
  entry : Entry
  world : World

namespace Series

variable (series : Series Handle World)

def found : Nat → Entry × World
  | 0 => (series.entry, series.world)
  | k + 1 =>
    let ended := (setupEntry (found k).1 (series.apis k)).run series.interface (found k).2
    (ended.1.1, ended.2)

def entryAt (k : Nat) : Entry :=
  (series.found k).1

def answersOf (k : Nat) : List (Answered Handle) :=
  (setupEntry (series.entryAt k) (series.apis k)).answers series.interface (series.found k).2

theorem entryAt_succ (k : Nat) :
    series.entryAt (k + 1) = (series.entryAt k).learning (series.answersOf k) :=
  setupEntry_entry series.interface (series.entryAt k) (series.apis k) (series.found k).2

theorem macs_succ (k : Nat) :
    (series.entryAt (k + 1)).data.macs =
      if (series.entryAt k).data.macs = [] then (macs? (series.answersOf k)).getD []
      else (series.entryAt k).data.macs := by
  rw [entryAt_succ]
  rfl

theorem ids_at (k : Nat) :
    (series.entryAt k).devices.map (·.id) = series.entry.devices.map (·.id) := by
  induction k with
  | zero => rfl
  | succ k ih =>
      rw [entryAt_succ]
      exact (Device.ids_applyAll _ _).trans ih

theorem sameAccount_at (k : Nat) : (series.entryAt k).SameAccount series.entry := by
  induction k with
  | zero => exact ⟨rfl, rfl, rfl, rfl, rfl, rfl, rfl, rfl⟩
  | succ k ih =>
      have ids := series.ids_at (k + 1)
      rw [entryAt_succ] at ids ⊢
      exact { ih with deviceIds := ids }

theorem devices_succ (k : Nat) :
    (series.entryAt (k + 1)).devices = Device.migrate series.entry.devices := by
  induction k with
  | zero =>
      rw [entryAt_succ]
      rfl
  | succ k ih =>
      rw [entryAt_succ]
      change Device.migrate (series.entryAt (k + 1)).devices = _
      rw [ih, Device.migrate_migrate]

theorem verifySsl_succ (k : Nat) :
    (series.entryAt (k + 1)).data.verifySsl = some (series.entry.data.verifySsl.getD false) := by
  induction k with
  | zero =>
      rw [entryAt_succ]
      rfl
  | succ k ih =>
      rw [entryAt_succ]
      change some ((series.entryAt (k + 1)).data.verifySsl.getD EntryData.defaultVerifySsl) = _
      rw [ih, Option.getD_some]

/-- Once an entry has addresses it keeps them. -/
theorem macs_kept {j k : Nat} (later : j ≤ k) (known : (series.entryAt j).data.macs ≠ []) :
    (series.entryAt k).data.macs = (series.entryAt j).data.macs := by
  induction later with
  | refl => rfl
  | step later ih => rw [macs_succ, ih, if_neg known]

def Learns (k : Nat) : Prop :=
  (series.entryAt (k + 1)).data.macs ≠ (series.entryAt k).data.macs

theorem learns_iff (k : Nat) :
    series.Learns k ↔ (series.entryAt k).data.macs = [] ∧ ∃ macs, macs ≠ [] ∧
      ⟨series.apis k, .networkMacs, .ok macs⟩ ∈ series.answersOf k := by
  unfold Learns
  rw [macs_succ]
  by_cases unknown : (series.entryAt k).data.macs = []
  · rw [if_pos unknown, unknown]
    constructor
    · intro differs
      cases told : macs? (series.answersOf k) with
      | none =>
          rw [told] at differs
          exact absurd rfl differs
      | some macs =>
          rw [told] at differs
          exact ⟨rfl, macs, differs, Setup.macs?_eq_some_iff.mp told⟩
    · rintro ⟨_, macs, some, answered⟩
      rw [answersOf, Setup.macs?_eq_some_iff.mpr answered]
      exact some
  · rw [if_neg unknown]
    constructor
    · exact fun differs => absurd rfl differs
    · exact fun both => absurd both.1 unknown

theorem macs_of_answered {k : Nat} {macs : List String}
    (answered : ⟨series.apis k, .networkMacs, .ok macs⟩ ∈ series.answersOf k) :
    (series.entryAt (k + 1)).data.macs = macs := by
  rw [macs_succ, if_pos (Setup.macs_of_asked answered rfl), answersOf,
    Setup.macs?_eq_some_iff.mpr answered, Option.getD_some]

/-- Addresses are learned before the entry has any, and it has some ever after. -/
theorem Learns.unique {j k : Nat} (first : series.Learns j) (second : series.Learns k) : j = k := by
  have settled {j k : Nat} (first : series.Learns j) (second : series.Learns k) : ¬ j < k := by
    intro before
    obtain ⟨unknown, macs, some, answered⟩ := (series.learns_iff j).mp first
    have known : (series.entryAt (j + 1)).data.macs ≠ [] := by
      rw [series.macs_of_answered answered]
      exact some
    have still := series.macs_kept before known
    rw [((series.learns_iff k).mp second).1] at still
    exact known still.symm
  have notBefore := settled first second
  have notAfter := settled second first
  omega

/-- How the entry of a series of setups changes. The account and the ids never do; the devices and the
check of certificates have their final values after the first setup; the addresses change in at most one
setup, one that finds none and is told some, and no setup that finds some asks for them. -/
structure ChangesOnce : Prop where
  account : ∀ k, (series.entryAt k).SameAccount series.entry
  devices : ∀ k, (series.entryAt (k + 1)).devices = Device.migrate series.entry.devices
  verifySsl : ∀ k, (series.entryAt (k + 1)).data.verifySsl =
    some (series.entry.data.verifySsl.getD false)
  learns : ∀ k, series.Learns k ↔ (series.entryAt k).data.macs = [] ∧ ∃ macs, macs ≠ [] ∧
    ⟨series.apis k, .networkMacs, .ok macs⟩ ∈ series.answersOf k
  told : ∀ k macs, ⟨series.apis k, .networkMacs, .ok macs⟩ ∈ series.answersOf k →
    (series.entryAt (k + 1)).data.macs = macs
  once : ∀ j k, series.Learns j → series.Learns k → j = k
  settled : ∀ j k, j ≤ k → (series.entryAt j).data.macs ≠ [] →
    (series.entryAt k).data.macs = (series.entryAt j).data.macs ∧
      ∀ answered ∈ series.answersOf k, answered.what ≠ .networkMacs

end Series

/-- However often an entry is set up, on whatever interfaces and with whatever answers, the first setup
brings it up to date, at most one gives it its network addresses, and nothing else about it changes. -/
theorem entry_changes_once (series : Series Handle World) : series.ChangesOnce := by
  refine ⟨series.sameAccount_at, series.devices_succ, series.verifySsl_succ, series.learns_iff,
    fun k macs => series.macs_of_answered, fun j k => Series.Learns.unique series,
    fun j k later known => ?_⟩
  have kept := series.macs_kept later known
  refine ⟨kept, fun answered made asks => ?_⟩
  have unknown := Setup.macs_of_asked made asks
  exact known (kept.symm.trans unknown)

end PresenceGateway.Nas
