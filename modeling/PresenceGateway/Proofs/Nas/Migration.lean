import PresenceGateway.Nas.Entry
/-!
Bringing the identifiers of devices up to date.

A rewriting names its device by the id, and reaches the first device that has it. So among devices of
one id only the first is ever rewritten, and the last rewriting with the id decides how. A second
migration finds that device done; what it plans for the others of the id comes out as before. When
no two devices share an id, each gets its own rewriting.
-/
namespace PresenceGateway.Nas.Device

/-! ### What rewritings do to a list -/

/-- The last of some rewritings that names an id. -/
def lastFor? (id : String) (migrations : List Migration) : Option Migration :=
  (migrations.filter fun migration => migration.deviceId = id).getLast?

def withoutId (id : String) (migrations : List Migration) : List Migration :=
  migrations.filter fun migration => migration.deviceId ≠ id

def rewritten (device : Device) : Option Migration → Device
  | none => device
  | some migration => { device with identifiers := [[migration.new.1, migration.new.2]] }

theorem rewritten_id (device : Device) (migration : Option Migration) :
    (device.rewritten migration).id = device.id := by
  cases migration <;> rfl

theorem rewritten_rewritten (device : Device) (first second : Option Migration) :
    (device.rewritten first).rewritten second = device.rewritten (second.or first) := by
  cases first <;> cases second <;> rfl

theorem lastFor?_append (id : String) (first second : List Migration) :
    lastFor? id (first ++ second) = (lastFor? id second).or (lastFor? id first) := by
  unfold lastFor?
  rw [List.filter_append, List.getLast?_append]

theorem lastFor?_singleton (id : String) (migration : Migration) :
    lastFor? id [migration] = if migration.deviceId = id then some migration else none := by
  unfold lastFor?
  by_cases same : migration.deviceId = id
  · simp [same]
  · simp [same]

theorem lastFor?_cons (id : String) (migration : Migration) (rest : List Migration) :
    lastFor? id (migration :: rest) =
      (lastFor? id rest).or (if migration.deviceId = id then some migration else none) := by
  rw [← List.singleton_append, lastFor?_append, lastFor?_singleton]

theorem lastFor?_withoutId (id other : String) (migrations : List Migration) :
    lastFor? other (withoutId id migrations) =
      if other = id then none else lastFor? other migrations := by
  induction migrations with
  | nil => exact (ite_self _).symm
  | cons migration rest ih =>
      unfold withoutId at ih ⊢
      by_cases named : migration.deviceId = id
      · rw [List.filter_cons_of_neg (by simpa using named), ih, lastFor?_cons]
        by_cases same : other = id
        · rw [if_pos same, if_pos same]
        · rw [if_neg same, if_neg same, if_neg fun here => same (here.symm.trans named),
            Option.or_none]
      · rw [List.filter_cons_of_pos (by simpa using named), lastFor?_cons, ih, lastFor?_cons]
        by_cases same : other = id
        · rw [if_pos same, if_pos same, if_neg fun here => named (here.trans same), Option.or_none]
        · rw [if_neg same, if_neg same]

theorem applyAll_nil (migrations : List Migration) : applyAll migrations [] = [] := by
  induction migrations with
  | nil => rfl
  | cons migration rest ih => exact ih

/-- The first device of a list takes the last rewriting with its id, and none with its id gets past
it. -/
theorem applyAll_cons (migrations : List Migration) (device : Device) (rest : List Device) :
    applyAll migrations (device :: rest) =
      device.rewritten (lastFor? device.id migrations) ::
        applyAll (withoutId device.id migrations) rest := by
  induction migrations generalizing device rest with
  | nil => rfl
  | cons migration later ih =>
      change applyAll later (applyTo migration (device :: rest)) = _
      unfold withoutId at ih ⊢
      rw [applyTo, lastFor?_cons]
      by_cases named : device.id = migration.deviceId
      · rw [if_pos named, if_pos named.symm, List.filter_cons_of_neg (by simpa using named.symm), ih]
        exact congrArg (· :: _) (rewritten_rewritten device (some migration) _)
      · rw [if_neg named, if_neg (Ne.symm named), Option.or_none,
          List.filter_cons_of_pos (by simpa using Ne.symm named), ih]
        rfl

theorem ids_applyAll (migrations : List Migration) (devices : List Device) :
    (applyAll migrations devices).map (·.id) = devices.map (·.id) := by
  induction devices generalizing migrations with
  | nil => rw [applyAll_nil]
  | cons device rest ih => rw [applyAll_cons, List.map_cons, List.map_cons, ih, rewritten_id]

/-- Rewriting again with the same last rewritings, or with none where there were some, changes
nothing. -/
theorem applyAll_applyAll {migrations again : List Migration} (devices : List Device)
    (known : ∀ id, lastFor? id again = none ∨ lastFor? id again = lastFor? id migrations) :
    applyAll again (applyAll migrations devices) = applyAll migrations devices := by
  induction devices generalizing migrations again with
  | nil => rw [applyAll_nil, applyAll_nil]
  | cons device rest ih =>
      have sameHead : (lastFor? device.id again).or (lastFor? device.id migrations) =
          lastFor? device.id migrations := by
        rcases known device.id with none | same
        · rw [none, Option.none_or]
        · rw [same, Option.or_self]
      have knownLater : ∀ id, lastFor? id (withoutId device.id again) = none ∨
          lastFor? id (withoutId device.id again) =
            lastFor? id (withoutId device.id migrations) := by
        intro id
        rw [lastFor?_withoutId, lastFor?_withoutId]
        by_cases same : id = device.id
        · exact .inl (if_pos same)
        · rw [if_neg same, if_neg same]
          exact known id
      rw [applyAll_cons, applyAll_cons, rewritten_id, rewritten_rewritten, sameHead, ih knownLater]

/-! ### What is planned -/

def firstIdentifier (device : Device) : List String :=
  device.identifiers.headD []

def IsLong (device : Device) : Prop :=
  2 < device.firstIdentifier.length

instance (device : Device) : Decidable device.IsLong :=
  inferInstanceAs (Decidable (2 < device.firstIdentifier.length))

def shortIdentifier (device : Device) : String × String :=
  (device.firstIdentifier.headD "", String.intercalate "_" device.firstIdentifier.tail)

def shortened (device : Device) : Device :=
  if device.IsLong then
    { device with identifiers := [[device.shortIdentifier.1, device.shortIdentifier.2]] }
  else device

def shortening (device : Device) : Migration :=
  { deviceId := device.id, old := device.firstIdentifier, new := device.shortIdentifier }

theorem migration?_eq (device : Device) :
    device.migration? = if device.IsLong then some device.shortening else none := by
  obtain ⟨id, identifiers⟩ := device
  match identifiers with
  | [] => rfl
  | [] :: _ => rfl
  | [_] :: _ => rfl
  | [_, _] :: _ => rfl
  | (space :: first :: second :: more) :: others =>
      have long : IsLong ⟨id, (space :: first :: second :: more) :: others⟩ :=
        Nat.le_add_left 3 more.length
      rw [if_pos long]
      rfl

theorem migration?_rewritten (device : Device) (migration : Migration) :
    (device.rewritten (some migration)).migration? = none := rfl

theorem rewritten_migration? (device : Device) :
    device.rewritten device.migration? = device.shortened := by
  rw [migration?_eq, shortened]
  by_cases long : device.IsLong
  · rw [if_pos long, if_pos long]
    rfl
  · rw [if_neg long, if_neg long]
    rfl

theorem migration?_shortened (device : Device) : device.shortened.migration? = none := by
  rw [← rewritten_migration?]
  cases planned : device.migration? with
  | none => exact planned
  | some migration => exact migration?_rewritten device migration

theorem plan_eq (devices : List Device) :
    plan devices = (devices.filter fun device => device.IsLong).map shortening := by
  induction devices with
  | nil => rfl
  | cons device rest ih =>
      unfold plan at ih ⊢
      by_cases long : device.IsLong
      · rw [List.filterMap_cons_some ((migration?_eq device).trans (if_pos long)), ih,
          List.filter_cons_of_pos (by simpa using long), List.map_cons]
      · rw [List.filterMap_cons_none ((migration?_eq device).trans (if_neg long)), ih,
          List.filter_cons_of_neg (by simpa using long)]

theorem deviceId_of_planned {devices : List Device} {migration : Migration}
    (planned : migration ∈ plan devices) : migration.deviceId ∈ devices.map (·.id) := by
  rw [plan_eq] at planned
  obtain ⟨device, inside, rfl⟩ := List.mem_map.mp planned
  exact List.mem_map_of_mem (List.mem_filter.mp inside).1

theorem lastFor?_plan_cons (id : String) (device : Device) (rest : List Device) :
    lastFor? id (plan (device :: rest)) =
      (lastFor? id (plan rest)).or (if device.id = id then device.migration? else none) := by
  rw [plan, List.filterMap_cons, ← plan, migration?_eq]
  by_cases long : device.IsLong
  · rw [if_pos long]
    exact lastFor?_cons id device.shortening (plan rest)
  · rw [if_neg long, ite_self, Option.or_none]

/-- After some rewritings the last one that is planned for an id is as it was, or none if there was
one for the id. -/
theorem lastFor?_plan_applyAll (id : String) (migrations : List Migration)
    (devices : List Device) :
    lastFor? id (plan (applyAll migrations devices)) = lastFor? id (plan devices) ∨
      lastFor? id migrations ≠ none ∧ lastFor? id (plan (applyAll migrations devices)) = none := by
  induction devices generalizing migrations with
  | nil =>
      rw [applyAll_nil]
      exact .inl rfl
  | cons device rest ih =>
      have later := ih (withoutId device.id migrations)
      rw [lastFor?_withoutId] at later
      rw [applyAll_cons, lastFor?_plan_cons, lastFor?_plan_cons, rewritten_id]
      by_cases here : device.id = id
      · subst here
        rw [if_pos rfl] at later
        have kept := later.resolve_right fun impossible => impossible.1 rfl
        rw [kept, if_pos rfl, if_pos rfl]
        cases last : lastFor? device.id migrations with
        | none => exact .inl rfl
        | some migration =>
            rw [migration?_rewritten, Option.or_none]
            cases lastFor? device.id (plan rest) with
            | none => exact .inr ⟨Option.some_ne_none _, rfl⟩
            | some planned => exact .inl rfl
      · rw [if_neg (Ne.symm here)] at later
        rw [if_neg here, if_neg here, Option.or_none, Option.or_none]
        exact later

/-! ### Whole migrations -/

/-- A migrated list stays as it is, also when devices share ids. -/
theorem migrate_migrate (devices : List Device) : migrate (migrate devices) = migrate devices := by
  refine applyAll_applyAll devices fun id => ?_
  rcases lastFor?_plan_applyAll id (plan devices) devices with same | gone
  · exact .inr same
  · exact .inl gone.2

theorem applyAll_plan_of_distinct {devices : List Device}
    (distinct : (devices.map (·.id)).Nodup) :
    applyAll (plan devices) devices = devices.map shortened := by
  induction devices with
  | nil => rfl
  | cons device rest ih =>
      obtain ⟨absent, distinct⟩ := List.nodup_cons.mp distinct
      have foreign : ∀ migration ∈ plan rest, migration.deviceId ≠ device.id := by
        intro migration planned same
        have inside := deviceId_of_planned planned
        rw [same] at inside
        exact absent inside
      have none : lastFor? device.id (plan rest) = none := by
        unfold lastFor?
        rw [List.filter_eq_nil_iff.mpr (by simpa using foreign), List.getLast?_nil]
      have others : withoutId device.id (plan (device :: rest)) = plan rest := by
        unfold withoutId
        rw [plan, List.filterMap_cons, ← plan, migration?_eq]
        have kept : (plan rest).filter (fun migration => migration.deviceId ≠ device.id) =
            plan rest := List.filter_eq_self.mpr (by simpa using foreign)
        by_cases long : device.IsLong
        · rw [if_pos long]
          dsimp only
          rw [List.filter_cons_of_neg (by simp [shortening]), kept]
        · rw [if_neg long]
          exact kept
      rw [applyAll_cons, lastFor?_plan_cons, none, if_pos rfl, Option.none_or, rewritten_migration?,
        others, ih distinct, List.map_cons]

/-- A migration keeps the number, the order and the ids of the devices, and a second one changes
nothing. When the ids are distinct, each device with a long first identifier gets its own short form
and all others are left alone, the rewritings that are reported are those that were planned, in the
order of their devices, and none is planned for what comes out. -/
theorem migration_settles (devices : List Device) :
    (migrate devices).length = devices.length ∧
    (migrate devices).map (·.id) = devices.map (·.id) ∧
    migrate (migrate devices) = migrate devices ∧
    ((devices.map (·.id)).Nodup →
      migrate devices = devices.map shortened ∧
      (migrateAll devices).applied = plan devices ∧
      plan devices = (devices.filter fun device => device.IsLong).map shortening ∧
      plan (migrate devices) = []) := by
  have ids : (migrate devices).map (·.id) = devices.map (·.id) := ids_applyAll _ devices
  refine ⟨?_, ids, migrate_migrate devices, fun distinct => ?_⟩
  · simpa using congrArg List.length ids
  · have each : migrate devices = devices.map shortened := applyAll_plan_of_distinct distinct
    refine ⟨each, rfl, plan_eq devices, ?_⟩
    rw [each, plan, List.filterMap_map, List.filterMap_eq_nil_iff]
    intro device _
    exact migration?_shortened device

def twoDevices : List Device := [
  { id := "dev-1", identifiers := [["synology_dsm", "serial", "volume_1"], ["extra"]] },
  { id := "dev-2", identifiers := [["synology_dsm", "serial"]] }]

theorem migration_settles_of_two_devices :
    (twoDevices.map (·.id)).Nodup ∧
    migrate twoDevices = [
      { id := "dev-1", identifiers := [["synology_dsm", "serial_volume_1"]] },
      { id := "dev-2", identifiers := [["synology_dsm", "serial"]] }] ∧
    (migrateAll twoDevices).applied.map (·.deviceId) = ["dev-1"] := by
  have distinct : (twoDevices.map (·.id)).Nodup := by decide
  obtain ⟨_, _, _, settles⟩ := migration_settles twoDevices
  obtain ⟨each, applied, planned, _⟩ := settles distinct
  refine ⟨distinct, ?_, ?_⟩
  · rw [each]
    rfl
  · rw [applied, planned]
    rfl

end PresenceGateway.Nas.Device
