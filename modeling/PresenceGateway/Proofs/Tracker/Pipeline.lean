import PresenceGateway.Proofs.Payload.Reports
import PresenceGateway.Proofs.Time.Writing
import PresenceGateway.Proofs.Tracker.Attributes
import PresenceGateway.Proofs.Tracker.Recording
/-!
From accepted bodies to listed devices. Every update of an accepted body is recorded, whatever the
table holds of its device, and everything that was recorded can be looked up and listed. One row that
could not be read would make the whole listing fail, so this is said of all rows: the nullable columns
are filled together, accuracies have 32 bits, attributes stay within the depth that can be read, and
instants in years of four digits are read back.
-/
namespace PresenceGateway.Tracker

open Json (Value Members Outline)

/-! ### The nullable columns -/

/-- The columns of a row that may hold nothing. -/
structure Columns where
  latitude : Option String
  longitude : Option String
  accuracy : Option Int

namespace Columns

/-- The checks of the table: all of these columns hold something, or none of them. -/
def Passes (columns : Columns) : Prop :=
  (columns.latitude.isNone = columns.longitude.isNone) ∧
    (columns.latitude.isNone = columns.accuracy.isNone)

def position? (columns : Columns) : Option Position :=
  match columns.latitude, columns.longitude, columns.accuracy with
  | some latitude, some longitude, some accuracy =>
    some { latitude, longitude, accuracy := .integer accuracy }
  | _, _, _ => none

end Columns

def Sighting.columns (sighting : Sighting) : Columns :=
  { latitude := sighting.gps.map (·.1)
    longitude := sighting.gps.map (·.2)
    accuracy := (sighting.gps.map (·.1)).map fun _ => (sighting.gpsAccuracy.getD 0 : Int) }

theorem Sighting.columns_pass (sighting : Sighting) :
    sighting.columns.Passes ∧ sighting.columns.position? = sighting.position := by
  unfold columns Columns.Passes Columns.position? position
  cases sighting.gps with
  | none => exact ⟨⟨rfl, rfl⟩, rfl⟩
  | some place => exact ⟨⟨rfl, rfl⟩, rfl⟩

/-! ### Sightings of sound updates -/

section Sound

variable {update : Update} (sound : update.Sound) (seenAt : Instant)

include sound

theorem normal_of_sound : (Sighting.ofUpdate update seenAt).Normal where
  ordered := .object sound.ascending fun member inside => (sound.nested member inside).ordered
  noNull := sound.noNull

theorem readable_of_sound : (Sighting.ofUpdate update seenAt).Readable := by
  have within : (Value.object update.attributes).Within Json.maxDepth :=
    .object sound.ascending sound.nested
  exact within.read?_isSome

theorem accuracy_of_sound : update.gpsAccuracy.getD 0 < 0x100000000 := by
  cases measured : update.gpsAccuracy with
  | none => exact Nat.two_pow_pos 32
  | some accuracy =>
      have bound := sound.measured accuracy measured
      unfold Accuracy.maximum at bound
      rw [Option.getD_some]
      omega

/-- The accuracy that is read of a row is that of the last update. -/
theorem readAccuracy_of_sound (attributes : Json.Document) :
    ((Sighting.ofUpdate update seenAt).toRow attributes).readAccuracy = .ok update.gpsAccuracy := by
  have located := sound.located
  have small := accuracy_of_sound sound
  unfold Row.readAccuracy Sighting.toRow Sighting.position Sighting.ofUpdate
  dsimp only
  cases measured : update.gpsAccuracy with
  | none =>
      rw [measured, Option.isSome_none, Option.isSome_eq_false_iff, Option.isNone_iff_eq_none]
        at located
      rw [located]
      rfl
  | some accuracy =>
      rw [measured, Option.isSome_some] at located
      rw [measured, Option.getD_some] at small
      obtain ⟨place, found⟩ := Option.isSome_iff_exists.mp located
      rw [found]
      simp only [Option.map_some, Option.getD_some]
      rw [if_pos ⟨Int.natCast_nonneg _, by omega⟩, Int.toNat_natCast]

end Sound

/-! ### Runs of the recorder -/

/-- Records updates one after the other, each at its own time, and collects the answers. -/
def Table.recordEach (table : Table) : List (Update × Instant) → List SinkAnswer × Table
  | [] => ([], table)
  | (update, now) :: rest =>
    let (answer, recorder) := Recorder.record update { table, now }
    let (answers, last) := recordEach recorder.table rest
    (answer :: answers, last)

def sightingOf (entry : Update × Instant) : Sighting :=
  .ofUpdate entry.1 entry.2

/-- Sound updates are all recorded, and the table then holds their sightings. -/
theorem recordEach_holds {table : Table} {earlier : List Sighting} (holds : Holds table earlier)
    {entries : List (Update × Instant)} (sound : ∀ entry ∈ entries, entry.1.Sound) :
    (∀ answer ∈ (table.recordEach entries).1, answer.result = .ok ()) ∧
      (table.recordEach entries).1.length = entries.length ∧
      Holds (table.recordEach entries).2 (earlier ++ entries.map sightingOf) := by
  induction entries generalizing table earlier with
  | nil => exact ⟨by simp [Table.recordEach], rfl, by rwa [List.map_nil, List.append_nil]⟩
  | cons entry rest ih =>
      obtain ⟨first, others⟩ := List.forall_mem_cons.mp sound
      obtain ⟨later, seen, held⟩ := holds.see (normal_of_sound first entry.2).ordered
      have recorded : Recorder.record entry.1 { table, now := entry.2 } =
          ({ result := .ok (), log := [seenLog entry.1] }, { table := later, now := entry.2 }) := by
        unfold Recorder.record
        rw [seen]
      obtain ⟨answers, count, finally_⟩ := ih held others
      unfold Table.recordEach
      rw [recorded]
      refine ⟨List.forall_mem_cons.mpr ⟨rfl, answers⟩, congrArg (· + 1) count, ?_⟩
      rw [List.append_assoc, List.singleton_append] at finally_
      exact finally_

theorem recordEach_snd (table : Table) (entries : List (Update × Instant)) :
    (table.recordEach entries).2 = table.afterAll (entries.map sightingOf) := by
  unfold Table.afterAll
  induction entries generalizing table with
  | nil => rfl
  | cons entry rest ih =>
      have step := Recorder.record_snd { table, now := entry.2 } entry.1
      unfold Table.recordEach
      rw [List.map_cons, List.foldl_cons]
      dsimp only
      rw [step, ih]
      rfl

/-! ### What is read of a device -/

def LastOf (entries : List (Update × Instant)) (devId : String) (entry : Update × Instant) : Prop :=
  ∃ before after, entries = before ++ entry :: after ∧ entry.1.devId = devId ∧
    ∀ later ∈ after, later.1.devId ≠ devId

theorem exists_lastOf {entries : List (Update × Instant)} {devId : String}
    (seen : ∃ entry ∈ entries, entry.1.devId = devId) : ∃ entry, LastOf entries devId entry := by
  induction entries with
  | nil =>
      obtain ⟨entry, impossible, _⟩ := seen
      cases impossible
  | cons entry rest ih =>
      by_cases later : ∃ entry ∈ rest, entry.1.devId = devId
      · obtain ⟨last, before, after, rfl, same, others⟩ := ih later
        exact ⟨last, entry :: before, after, rfl, same, others⟩
      · have here : entry.1.devId = devId := by
          obtain ⟨found, inside, same⟩ := seen
          rcases List.mem_cons.mp inside with rfl | among
          · exact same
          · exact absurd ⟨found, among, same⟩ later
        refine ⟨entry, [], rest, rfl, here, ?_⟩
        intro other among same
        exact later ⟨other, among, same⟩

/-- What is read of a device whose last update is known: everything but the attributes is that of the
update, and the instant is that of the update without what is smaller than a millisecond. -/
structure Recalled (entry : Update × Instant) (device : Device) : Prop where
  devId : device.devId = entry.1.devId
  mac : device.mac = entry.1.mac
  hostName : device.hostName = entry.1.hostName
  sourceType : device.sourceType = entry.1.sourceType
  gps : device.gps = entry.1.gps.map fun place => (place.1.display, place.2.display)
  gpsAccuracy : device.gpsAccuracy = entry.1.gpsAccuracy
  lastSeenAt : device.lastSeenAt = { nanoseconds := entry.2.milliseconds * 1000000 }
  located : device.gps.isSome ↔ device.gpsAccuracy.isSome

/-- Updates that can be recorded and read: they are sound, and their years have four digits. -/
structure Recordable (entries : List (Update × Instant)) : Prop where
  sound : ∀ entry ∈ entries, entry.1.Sound
  dated : ∀ entry ∈ entries, 0 ≤ entry.2.year ∧ entry.2.year ≤ 9999

theorem read_rowOf {entry : Update × Instant} (sound : entry.1.Sound)
    (dated : 0 ≤ entry.2.year ∧ entry.2.year ≤ 9999) {members : StoredMembers}
    (readable : ((Outline.object members).read? Json.maxDepth).isSome) :
    ∃ device, (rowOf (sightingOf entry, members)).read = .ok device ∧ Recalled entry device := by
  obtain ⟨attributes, decoded⟩ := readable_members readable
  have place : (rowOf (sightingOf entry, members)).position.map (fun position =>
      (position.latitude, position.longitude)) =
      entry.1.gps.map fun place => (place.1.display, place.2.display) := by
    change (Option.map _ (entry.1.gps.map _)).map _ = _
    cases entry.1.gps <;> rfl
  refine ⟨_, Row.read_eq_ok_iff.mpr ⟨entry.1.sourceType, entry.1.gpsAccuracy, attributes, _,
    SourceType.parse?_text entry.1.sourceType,
    readAccuracy_of_sound sound entry.2 (documentOf members), decoded,
    Instant.parse?_text dated.1 dated.2, rfl⟩, ?_⟩
  constructor
  · rfl
  · rfl
  · rfl
  · rfl
  · exact place
  · rfl
  · rfl
  · rw [place, Option.isSome_map, sound.located]

section Reading

variable {entries : List (Update × Instant)} {table : Table}

theorem read_last (recordable : Recordable entries)
    (holds : Holds table (entries.map sightingOf)) {devId : String} {entry : Update × Instant}
    (last : LastOf entries devId entry) :
    ∃ row device, table.row? devId = some row ∧ row.read = .ok device ∧ Recalled entry device := by
  obtain ⟨before, after, split, same, others⟩ := last
  have listed : entry ∈ entries := by
    rw [split]
    exact List.mem_append_right _ List.mem_cons_self
  obtain ⟨members, known⟩ : ∃ members,
      memory devId (entries.map sightingOf) = some (sightingOf entry, members) := by
    rw [split, List.map_append, List.map_cons]
    apply memory_of_last same
    intro later inside
    obtain ⟨other, among, rfl⟩ := List.mem_map.mp inside
    exact others other among
  have stored : storedMembers devId (entries.map sightingOf) = some members := by
    rw [storedMembers, known, Option.map_some]
  have readable : ∀ sighting ∈ entries.map sightingOf, sighting.devId = devId →
      sighting.Readable := by
    intro sighting inside _
    obtain ⟨other, among, rfl⟩ := List.mem_map.mp inside
    exact readable_of_sound (recordable.sound other among) other.2
  obtain ⟨device, read, recalled⟩ := read_rowOf (recordable.sound entry listed)
    (recordable.dated entry listed) (storedMembers_readable readable stored)
  refine ⟨rowOf (sightingOf entry, members), device, ?_, read, recalled⟩
  rw [holds.rows, known]
  rfl

/-- Every row of the table can be read. -/
theorem read_row (recordable : Recordable entries) (holds : Holds table (entries.map sightingOf))
    {devId : String} {row : Row} (stored : table.row? devId = some row) :
    ∃ entry device, LastOf entries devId entry ∧ row.read = .ok device ∧
      Recalled entry device := by
  have seen : ∃ entry ∈ entries, entry.1.devId = devId := by
    apply Decidable.byContradiction
    intro unseen
    have absent : memory devId (entries.map sightingOf) = none := by
      apply memory_eq_none
      intro sighting inside same
      obtain ⟨entry, among, rfl⟩ := List.mem_map.mp inside
      exact unseen ⟨entry, among, same⟩
    rw [holds.rows, absent] at stored
    cases stored
  obtain ⟨entry, last⟩ := exists_lastOf seen
  obtain ⟨other, device, found, read, recalled⟩ := read_last recordable holds last
  obtain rfl : row = other := Option.some.inj (stored.symm.trans found)
  exact ⟨entry, device, last, read, recalled⟩

end Reading

/-! ### Listing -/

theorem devId_of_read {row : Row} {device : Device} (read : row.read = .ok device) :
    device.devId = row.devId := by
  obtain ⟨_, _, _, _, _, _, _, _, rfl⟩ := Row.read_eq_ok_iff.mp read
  rfl

theorem mapM_read {rows : List Row} (each : ∀ row ∈ rows, ∃ device, row.read = .ok device) :
    ∃ devices, rows.mapM Row.read = .ok devices ∧
      devices.map Device.devId = rows.map Row.devId ∧
      ∀ device, device ∈ devices ↔ ∃ row ∈ rows, row.read = .ok device := by
  induction rows with
  | nil => exact ⟨[], rfl, rfl, by simp⟩
  | cons row rest ih =>
      obtain ⟨⟨device, first⟩, others⟩ := List.forall_mem_cons.mp each
      obtain ⟨devices, later, ids, members⟩ := ih others
      refine ⟨device :: devices, ?_, ?_, ?_⟩
      · rw [List.mapM_cons, first]
        change (rest.mapM Row.read >>= fun devices => pure (device :: devices)) = _
        rw [later]
        rfl
      · rw [List.map_cons, List.map_cons, devId_of_read first, ids]
      · intro found
        rw [List.mem_cons, members]
        constructor
        · rintro (rfl | ⟨other, inside, read⟩)
          · exact ⟨row, List.mem_cons_self, first⟩
          · exact ⟨other, List.mem_cons_of_mem _ inside, read⟩
        · rintro ⟨other, inside, read⟩
          rcases List.mem_cons.mp inside with rfl | among
          · exact .inl (Except.ok.inj (read.symm.trans first))
          · exact .inr ⟨other, among, read⟩

namespace Table

/-- When every row can be read, a listing has each of them once, and each as a lookup answers. -/
theorem Keyed.list_of_readable {table : Table} (keyed : table.Keyed)
    (each : ∀ row ∈ table.rows, ∃ device, row.read = .ok device) :
    ∃ devices, table.list = .ok devices ∧ (devices.map Device.devId).Nodup ∧
      ∀ device, device ∈ devices ↔ table.get device.devId = .ok (some device) := by
  have order := List.mergeSort_perm table.rows precedes
  have sorted : ∀ row ∈ table.rows.mergeSort precedes, ∃ device, row.read = .ok device := by
    intro row inside
    exact each row (order.mem_iff.mp inside)
  obtain ⟨devices, listed, ids, members⟩ := mapM_read sorted
  refine ⟨devices, listed, ?_, ?_⟩
  · rw [ids]
    exact (order.map Row.devId).nodup_iff.mpr keyed
  · intro device
    rw [members, get_eq_ok_some_iff]
    constructor
    · rintro ⟨row, inside, read⟩
      have stored := (keyed.mem_rows_iff row).mp (order.mem_iff.mp inside)
      exact ⟨row, devId_of_read read ▸ stored, read⟩
    · rintro ⟨row, stored, read⟩
      exact ⟨row, order.mem_iff.mpr (List.mem_of_find?_eq_some stored), read⟩

end Table

/-! ### Accepted bodies -/

/-- Everything that is recorded of accepted bodies can be read back. All updates are recorded, with
columns that pass the checks of the table; a device is found exactly when it was seen, as its last
update says, and the listing has each device once, as it is found. No update changes the row of
another device, whatever the table holds. -/
theorem accepted_updates_read_back (entries : List (Update × Instant))
    (accepted : ∀ entry ∈ entries, entry.1.Accepted)
    (dated : ∀ entry ∈ entries, 0 ≤ entry.2.year ∧ entry.2.year ≤ 9999) :
    (Table.empty.recordEach entries).1.map SinkAnswer.result =
        List.replicate entries.length (.ok ()) ∧
      (∀ entry ∈ entries, (sightingOf entry).columns.Passes ∧
        (sightingOf entry).columns.position? = (sightingOf entry).position) ∧
      (∀ devId, (∀ entry ∈ entries, entry.1.devId ≠ devId) →
        (Table.empty.recordEach entries).2.get devId = .ok none) ∧
      (∀ devId entry, LastOf entries devId entry → ∃ device,
        (Table.empty.recordEach entries).2.get devId = .ok (some device) ∧
          Recalled entry device) ∧
      (∃ devices, (Table.empty.recordEach entries).2.list = .ok devices ∧
        (devices.map Device.devId).Nodup ∧
        (∀ devId, devId ∈ devices.map Device.devId ↔ ∃ entry ∈ entries, entry.1.devId = devId) ∧
        ∀ device ∈ devices,
          (Table.empty.recordEach entries).2.get device.devId = .ok (some device) ∧
            ∃ entry, LastOf entries device.devId entry ∧ Recalled entry device) ∧
      ∀ (recorder : Recorder) (update : Update) (devId : String), update.devId ≠ devId →
        (recorder.record update).2.table.row? devId = recorder.table.row? devId := by
  have recordable : Recordable entries :=
    ⟨fun entry inside => (accepted entry inside).sound, dated⟩
  obtain ⟨answers, count, holds⟩ := recordEach_holds holds_empty recordable.sound
  have keyed : (Table.empty.recordEach entries).2.Keyed := by
    rw [recordEach_snd]
    exact Table.keyed_empty.afterAll _
  generalize (Table.empty.recordEach entries).1 = given at answers count ⊢
  generalize (Table.empty.recordEach entries).2 = table at holds keyed ⊢
  rw [List.nil_append] at holds
  have found (devId : String) (entry : Update × Instant) (last : LastOf entries devId entry) :
      ∃ device, table.get devId = .ok (some device) ∧ Recalled entry device := by
    obtain ⟨row, device, stored, read, recalled⟩ := read_last recordable holds last
    exact ⟨device, Table.get_eq_ok_some_iff.mpr ⟨row, stored, read⟩, recalled⟩
  have known (device : Device) (got : table.get device.devId = .ok (some device)) :
      ∃ entry, LastOf entries device.devId entry ∧ Recalled entry device := by
    obtain ⟨row, stored, read⟩ := Table.get_eq_ok_some_iff.mp got
    obtain ⟨entry, other, last, same, recalled⟩ := read_row recordable holds stored
    obtain rfl : device = other := Except.ok.inj (read.symm.trans same)
    exact ⟨entry, last, recalled⟩
  refine ⟨?_, fun entry _ => (sightingOf entry).columns_pass, ?_, found, ?_, ?_⟩
  · rw [List.eq_replicate_iff, List.length_map]
    refine ⟨count, ?_⟩
    intro result inside
    obtain ⟨answer, among, rfl⟩ := List.mem_map.mp inside
    exact answers answer among
  · intro devId unseen
    apply get_of_unseen holds
    intro sighting inside
    obtain ⟨entry, among, rfl⟩ := List.mem_map.mp inside
    exact unseen entry among
  · have readable : ∀ row ∈ table.rows, ∃ device, row.read = .ok device := by
      intro row inside
      obtain ⟨_, device, _, read, _⟩ :=
        read_row recordable holds ((keyed.mem_rows_iff row).mp inside)
      exact ⟨device, read⟩
    obtain ⟨devices, listed, once, members⟩ := keyed.list_of_readable readable
    refine ⟨devices, listed, once, ?_, ?_⟩
    · intro devId
      constructor
      · intro inside
        obtain ⟨device, among, rfl⟩ := List.mem_map.mp inside
        obtain ⟨entry, last, _⟩ := known device ((members device).mp among)
        obtain ⟨before, after, split, same, _⟩ := last
        exact ⟨entry, split ▸ List.mem_append_right _ List.mem_cons_self, same⟩
      · intro seen
        obtain ⟨entry, last⟩ := exists_lastOf seen
        obtain ⟨device, got, recalled⟩ := found devId entry last
        obtain ⟨_, _, _, same, _⟩ := last
        have id : device.devId = devId := recalled.devId.trans same
        rw [← id]
        apply List.mem_map_of_mem
        rw [members, id]
        exact got
    · intro device among
      have got := (members device).mp among
      exact ⟨got, known device got⟩
  · intro recorder update devId other
    rw [Recorder.record_snd, Table.row?_after, Sighting.applyTo]
    exact if_neg other

/-- The updates of a body that is accepted under the secret `s`. -/
def updatesOf (body : List UInt8) : List Update :=
  match Payload.validateBody "s" body with
  | .ok validated => validated.request.updates .omitEmpty
  | .error _ => []

theorem updatesOf_accepted {body : List UInt8} {update : Update}
    (inside : update ∈ updatesOf body) : update.Accepted := by
  unfold updatesOf at inside
  cases accepted : Payload.validateBody "s" body with
  | error cause =>
      rw [accepted] at inside
      cases inside
  | ok validated =>
      rw [accepted] at inside
      exact ⟨"s", body, validated, .omitEmpty, accepted, inside⟩

def bodyAt (name latitude : String) : List UInt8 :=
  let place := Value.object
    [("lat", .string latitude), ("lng", .string "2.5"), ("unc", .string "5.7")]
  let device := Value.object [("clientMac", .string "a"), ("name", .string name), ("location", place)]
  Text.Utf8.encode (Value.text (.object [
    ("secret", .string "s"), ("version", .string "2.0"), ("type", .string "DevicesSeen"),
    ("data", .object [("observations", .array [device])])]))

def lostDevice : List (Update × Instant) :=
  ((updatesOf (bodyAt "early" "1.5")).map fun update => (update, .ofMicroseconds 1000000)) ++
    (updatesOf (bodyAt "late" "NaN")).map fun update => (update, .ofMicroseconds 2000000)

theorem lostDevice_accepted : ∀ entry ∈ lostDevice, entry.1.Accepted := by
  intro entry inside
  rcases List.mem_append.mp inside with first | second
  · obtain ⟨update, made, rfl⟩ := List.mem_map.mp first
    exact updatesOf_accepted made
  · obtain ⟨update, made, rfl⟩ := List.mem_map.mp second
    exact updatesOf_accepted made

theorem lostDevice_dated : ∀ entry ∈ lostDevice, 0 ≤ entry.2.year ∧ entry.2.year ≤ 9999 := by
  have early : (Instant.ofMicroseconds 1000000).year = 1970 := by decide +kernel
  have late : (Instant.ofMicroseconds 2000000).year = 1970 := by decide +kernel
  intro entry inside
  rcases List.mem_append.mp inside with first | second
  · obtain ⟨update, made, rfl⟩ := List.mem_map.mp first
    rw [early]
    decide
  · obtain ⟨update, made, rfl⟩ := List.mem_map.mp second
    rw [late]
    decide

/-- Its name is the later one, and neither place nor accuracy is left of the earlier sighting. -/
theorem accepted_updates_read_back_of_lost_device :
    (∀ entry ∈ lostDevice, entry.1.Accepted) ∧
      (∀ entry ∈ lostDevice, 0 ≤ entry.2.year ∧ entry.2.year ≤ 9999) ∧
      lostDevice.map (fun entry => (entry.1.devId, entry.1.hostName, entry.1.gpsAccuracy)) =
        [("a", "early", some 5), ("a", "late", none)] ∧
      ∃ device, (Table.empty.recordEach lostDevice).2.get "a" = .ok (some device) ∧
        device.hostName = "late" ∧ device.gps = none ∧ device.gpsAccuracy = none := by
  have reports : lostDevice.map
      (fun entry => (entry.1.devId, entry.1.hostName, entry.1.gpsAccuracy)) =
        [("a", "early", some 5), ("a", "late", none)] := by
    decide +kernel
  obtain ⟨_, _, _, found, _⟩ :=
    accepted_updates_read_back lostDevice lostDevice_accepted lostDevice_dated
  refine ⟨lostDevice_accepted, lostDevice_dated, reports, ?_⟩
  generalize lostDevice = entries at reports found ⊢
  obtain ⟨first, second, rfl⟩ : ∃ first second, entries = [first, second] :=
    List.length_eq_two.mp (by simpa using congrArg List.length reports)
  simp only [List.map_cons, List.map_nil, List.cons.injEq, Prod.mk.injEq, and_true] at reports
  obtain ⟨_, id, name, measured⟩ := reports
  obtain ⟨device, got, recalled⟩ := found "a" second ⟨[first], [], rfl, id, by simp⟩
  have accuracy := recalled.gpsAccuracy.trans measured
  have nowhere : ¬ device.gps.isSome := by
    rw [recalled.located, accuracy]
    simp
  exact ⟨device, got, recalled.hostName.trans name, by simpa using nowhere, accuracy⟩

end PresenceGateway.Tracker
