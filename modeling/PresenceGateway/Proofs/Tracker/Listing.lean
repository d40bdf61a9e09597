import Mathlib.Data.List.Forall2
import PresenceGateway.Proofs.Text.ByteOrder
import PresenceGateway.Proofs.Time.Ordering
import PresenceGateway.Proofs.Tracker.Pipeline
/-!
The order of listings. The rows are sorted by the texts of their times, and a row holds the time of
the last recorded sighting of its device, whatever else was merged into it. Texts of times have the
order of the times and texts of identifiers that of their bytes, so a listing is the devices by their
last sightings, latest first.
-/
namespace PresenceGateway

def Instant.truncated (instant : Instant) : Instant :=
  { nanoseconds := instant.nanoseconds / 1000000 * 1000000 }

namespace Tracker

open Json (Value Outline)

/-! ### What is recorded -/

/-- Those of some sightings that are recorded when they are seen one after the other. -/
def Table.recorded (table : Table) : List Sighting → List Sighting
  | [] => []
  | sighting :: rest =>
    match table.see sighting with
    | .ok later => sighting :: later.recorded rest
    | .error _ => table.recorded rest

/-- The last sighting of its device in a history. -/
def Latest (history : List Sighting) (sighting : Sighting) : Prop :=
  ∃ before after, history = before ++ sighting :: after ∧
    ∀ later ∈ after, later.devId ≠ sighting.devId

theorem Latest.mem {history : List Sighting} {sighting : Sighting}
    (last : Latest history sighting) : sighting ∈ history := by
  obtain ⟨before, after, rfl, _⟩ := last
  exact List.mem_append_right _ List.mem_cons_self

def latest? (devId : String) (history : List Sighting) : Option Sighting :=
  history.reverse.find? fun sighting => sighting.devId = devId

theorem latest?_concat (devId : String) (history : List Sighting) (sighting : Sighting) :
    latest? devId (history ++ [sighting]) =
      if sighting.devId = devId then some sighting else latest? devId history := by
  unfold latest?
  rw [List.reverse_concat, List.find?_cons]
  by_cases same : sighting.devId = devId <;> simp [same]

theorem latest?_eq_some_iff {devId : String} {history : List Sighting} {sighting : Sighting} :
    latest? devId history = some sighting ↔ sighting.devId = devId ∧ Latest history sighting := by
  rw [latest?, List.find?_eq_some_iff_append]
  constructor
  · rintro ⟨own, after, before, split, others⟩
    have same : sighting.devId = devId := by simpa using own
    refine ⟨same, before.reverse, after.reverse, ?_, fun later inside => ?_⟩
    · rw [List.reverse_eq_iff.mp split, List.reverse_append, List.reverse_cons, List.append_assoc,
        List.singleton_append]
    · have apart := others later (List.mem_reverse.mp inside)
      simpa [same] using apart
  · rintro ⟨rfl, before, after, rfl, others⟩
    refine ⟨by simp, after.reverse, before.reverse, by simp, fun later inside => ?_⟩
    simpa using others later (List.mem_reverse.mp inside)

theorem latest?_eq_none_iff {devId : String} {history : List Sighting} :
    latest? devId history = none ↔ ∀ sighting ∈ history, sighting.devId ≠ devId := by
  simp [latest?]

/-! ### Rows and last sightings -/

/-- The rows of a table are those of the devices of a history, each with the time of the last
sighting. -/
structure Reflects (table : Table) (history : List Sighting) : Prop where
  keyed : table.Keyed
  times : ∀ devId, (table.row? devId).map Row.lastSeenAt =
    (latest? devId history).map fun sighting => sighting.seenAt.text

theorem reflects_empty : Reflects .empty [] :=
  ⟨Table.keyed_empty, fun _ => rfl⟩

theorem lastSeenAt_change {table later : Table} {sighting : Sighting}
    (seen : table.see sighting = .ok later) :
    (sighting.change (table.row? sighting.devId)).lastSeenAt = sighting.seenAt.text := by
  unfold Table.see at seen
  unfold Sighting.change
  cases stored : table.row? sighting.devId with
  | none => rfl
  | some row =>
      rw [stored] at seen
      dsimp only at seen ⊢
      cases merged : row.after? sighting with
      | none =>
          rw [merged] at seen
          cases seen
      | some next =>
          obtain ⟨document, _, rfl⟩ := Option.map_eq_some_iff.mp merged
          rfl

/-- A recorded sighting is the last one of its device, and the last ones of the others stay. -/
theorem Reflects.see {table later : Table} {history : List Sighting}
    (reflects : Reflects table history) {sighting : Sighting}
    (seen : table.see sighting = .ok later) : Reflects later (history ++ [sighting]) := by
  have next : table.after sighting = later := by rw [Table.after, seen]
  refine ⟨next ▸ reflects.keyed.after sighting, fun devId => ?_⟩
  rw [← next, Table.row?_after, Sighting.applyTo, latest?_concat]
  by_cases same : sighting.devId = devId
  · subst same
    rw [if_pos rfl, if_pos rfl, Option.map_some, Option.map_some, lastSeenAt_change seen]
  · rw [if_neg same, if_neg same]
    exact reflects.times devId

theorem Reflects.afterAll {table : Table} {history : List Sighting}
    (reflects : Reflects table history) (sightings : List Sighting) :
    Reflects (table.afterAll sightings) (history ++ table.recorded sightings) := by
  unfold Table.afterAll
  induction sightings generalizing table history with
  | nil => rwa [Table.recorded, List.append_nil]
  | cons sighting rest ih =>
      rw [List.foldl_cons, Table.after, Table.recorded]
      cases seen : table.see sighting with
      | error _ => exact ih reflects
      | ok later =>
          have recorded := ih (reflects.see seen)
          rwa [List.append_assoc, List.singleton_append] at recorded

section

variable {table : Table} {history : List Sighting} (reflects : Reflects table history)

include reflects

theorem Reflects.row_of_latest {sighting : Sighting} (last : Latest history sighting) :
    ∃ row, table.row? sighting.devId = some row ∧ row.lastSeenAt = sighting.seenAt.text := by
  have time := reflects.times sighting.devId
  rw [latest?_eq_some_iff.mpr ⟨rfl, last⟩] at time
  exact Option.map_eq_some_iff.mp time

theorem Reflects.latest_of_row {row : Row} (stored : row ∈ table.rows) :
    ∃ sighting, latest? row.devId history = some sighting ∧
      row.lastSeenAt = sighting.seenAt.text := by
  have time := reflects.times row.devId
  rw [(reflects.keyed.mem_rows_iff row).mp stored] at time
  obtain ⟨sighting, known, same⟩ := Option.map_eq_some_iff.mp time.symm
  exact ⟨sighting, known, same.symm⟩

theorem Reflects.get_of_unseen {devId : String}
    (unseen : ∀ sighting ∈ history, sighting.devId ≠ devId) : table.get devId = .ok none := by
  have time := reflects.times devId
  rw [latest?_eq_none_iff.mpr unseen] at time
  unfold Table.get
  rw [Option.map_eq_none_iff.mp time]

/-- A device that is found was last seen at the time of its last sighting. -/
theorem Reflects.lastSeenAt_of_get {sighting : Sighting} (last : Latest history sighting)
    (dated : 0 ≤ sighting.seenAt.year ∧ sighting.seenAt.year ≤ 9999) {device : Device}
    (got : table.get sighting.devId = .ok (some device)) :
    device.devId = sighting.devId ∧ device.lastSeenAt = sighting.seenAt.truncated := by
  obtain ⟨row, stored, time⟩ := reflects.row_of_latest last
  obtain ⟨other, found, read⟩ := Table.get_eq_ok_some_iff.mp got
  obtain rfl : row = other := Option.some.inj (stored.symm.trans found)
  obtain ⟨_, _, _, instant, _, _, _, parsed, rfl⟩ := Row.read_eq_ok_iff.mp read
  rw [time, Instant.parse?_text dated.1 dated.2] at parsed
  exact ⟨Table.devId_of_row? stored, (Option.some.inj parsed).symm⟩

end

/-! ### The order -/

/-- A later sighting comes first, to the millisecond, and of two at the same time the one of the
device whose identifier has the smaller bytes. -/
def MoreRecent (first second : Sighting) : Prop :=
  second.seenAt.milliseconds < first.seenAt.milliseconds ∨
    first.seenAt.milliseconds = second.seenAt.milliseconds ∧
      Text.Utf8.encode first.devId < Text.Utf8.encode second.devId

def lastSightings (history : List Sighting) (rows : List Row) : List Sighting :=
  rows.filterMap fun row => latest? row.devId history

theorem moreRecent_of_precedes {first second : Row} {earlier later : Sighting}
    (before : Table.precedes first second = true) (apart : first.devId ≠ second.devId)
    (firstTime : first.lastSeenAt = earlier.seenAt.text)
    (secondTime : second.lastSeenAt = later.seenAt.text)
    (firstId : earlier.devId = first.devId) (secondId : later.devId = second.devId)
    (firstDated : 0 ≤ earlier.seenAt.year ∧ earlier.seenAt.year ≤ 9999)
    (secondDated : 0 ≤ later.seenAt.year ∧ later.seenAt.year ≤ 9999) :
    MoreRecent earlier later := by
  unfold Table.precedes at before
  rw [firstTime, secondTime] at before
  unfold MoreRecent
  split at before
  · rename_i same
    refine .inr ⟨(Instant.text_eq_iff firstDated secondDated).mp same, ?_⟩
    rw [Text.Utf8.encode_lt_encode_iff, firstId, secondId]
    have le : first.devId ≤ second.devId := of_decide_eq_true before
    apply Decidable.byContradiction
    intro notLess
    exact apart (String.le_antisymm le notLess)
  · exact .inl ((Instant.text_lt_iff secondDated firstDated).mp (of_decide_eq_true before))

theorem mapM_read_eq_ok_iff {rows : List Row} {devices : List Device} :
    rows.mapM Row.read = .ok devices ↔
      List.Forall₂ (fun row device => row.read = .ok device) rows devices := by
  induction rows generalizing devices with
  | nil =>
      rw [List.mapM_nil, List.forall₂_nil_left_iff]
      exact ⟨fun same => (Except.ok.inj same).symm, fun same => congrArg _ same.symm⟩
  | cons row rest ih =>
      rw [List.mapM_cons, bind_eq_ok_iff, List.forall₂_cons_left_iff]
      constructor
      · rintro ⟨device, read, more⟩
        obtain ⟨others, listed, same⟩ := bind_eq_ok_iff.mp more
        exact ⟨device, others, read, ih.mp listed, (Except.ok.inj same).symm⟩
      · rintro ⟨device, others, read, listed, rfl⟩
        exact ⟨device, read, bind_eq_ok_iff.mpr ⟨others, ih.mpr listed, rfl⟩⟩

section

variable {table : Table} {history : List Sighting} (reflects : Reflects table history)

include reflects

theorem Reflects.mem_lastSightings (sighting : Sighting) :
    sighting ∈ lastSightings history (table.rows.mergeSort Table.precedes) ↔
      Latest history sighting := by
  rw [lastSightings, List.mem_filterMap]
  constructor
  · rintro ⟨row, _, known⟩
    exact (latest?_eq_some_iff.mp known).2
  · intro last
    obtain ⟨row, stored, _⟩ := reflects.row_of_latest last
    refine ⟨row, List.mem_mergeSort.mpr (List.mem_of_find?_eq_some stored), ?_⟩
    rw [Table.devId_of_row? stored]
    exact latest?_eq_some_iff.mpr ⟨rfl, last⟩

theorem Reflects.pairwise_lastSightings
    (dated : ∀ sighting ∈ history, 0 ≤ sighting.seenAt.year ∧ sighting.seenAt.year ≤ 9999) :
    (lastSightings history (table.rows.mergeSort Table.precedes)).Pairwise MoreRecent := by
  have permuted := List.mergeSort_perm table.rows Table.precedes
  have sorted := List.pairwise_mergeSort Table.precedes_trans Table.precedes_total table.rows
  have apart : (table.rows.mergeSort Table.precedes).Pairwise
      fun first second => first.devId ≠ second.devId :=
    List.pairwise_map.mp ((permuted.map Row.devId).nodup_iff.mpr reflects.keyed)
  rw [lastSightings, List.pairwise_filterMap]
  refine (sorted.and apart).imp_of_mem ?_
  intro first second firstStored secondStored both earlier firstKnown later secondKnown
  obtain ⟨_, firstLatest, firstTime⟩ := reflects.latest_of_row (permuted.mem_iff.mp firstStored)
  obtain ⟨_, secondLatest, secondTime⟩ := reflects.latest_of_row (permuted.mem_iff.mp secondStored)
  obtain rfl := Option.some.inj (firstKnown.symm.trans firstLatest)
  obtain rfl := Option.some.inj (secondKnown.symm.trans secondLatest)
  obtain ⟨firstId, firstLast⟩ := latest?_eq_some_iff.mp firstKnown
  obtain ⟨secondId, secondLast⟩ := latest?_eq_some_iff.mp secondKnown
  exact moreRecent_of_precedes both.1 both.2 firstTime secondTime firstId secondId
    (dated _ firstLast.mem) (dated _ secondLast.mem)

/-- A listing is what lookups of the devices answer, in the order of their last sightings. -/
theorem Reflects.list_eq_ok_iff {devices : List Device} :
    table.list = .ok devices ↔
      List.Forall₂ (fun sighting device => table.get sighting.devId = .ok (some device))
        (lastSightings history (table.rows.mergeSort Table.precedes)) devices := by
  have stored : ∀ row ∈ table.rows.mergeSort Table.precedes, row ∈ table.rows :=
    fun row => List.mem_mergeSort.mp
  rw [Table.list, mapM_read_eq_ok_iff]
  generalize table.rows.mergeSort Table.precedes = rows at stored
  induction rows generalizing devices with
  | nil =>
      rw [lastSightings, List.filterMap_nil, List.forall₂_nil_left_iff, List.forall₂_nil_left_iff]
  | cons row rest ih =>
      obtain ⟨here, others⟩ := List.forall_mem_cons.mp stored
      obtain ⟨sighting, known, _⟩ := reflects.latest_of_row here
      have own := (latest?_eq_some_iff.mp known).1
      have lookup (device : Device) :
          row.read = .ok device ↔ table.get sighting.devId = .ok (some device) := by
        rw [Table.get_eq_ok_some_iff, own, (reflects.keyed.mem_rows_iff row).mp here]
        simp
      have first : lastSightings history (row :: rest) =
          sighting :: lastSightings history rest :=
        List.filterMap_cons_some known
      rw [first, List.forall₂_cons_left_iff, List.forall₂_cons_left_iff]
      simp only [lookup, ih others]

end

/-! ### Sightings that can be read back -/

/-- What a sighting is made of: a map of attributes in which all keys ascend, those inside too, and an
accuracy of 32 bits. -/
structure Sighting.WellTyped (sighting : Sighting) : Prop where
  ordered : (Value.object sighting.attributes).Ordered
  measured : sighting.gpsAccuracy.getD 0 < 0x100000000

/-- That the attributes of a sighting are nested no deeper than a reader follows. -/
def Sighting.Shallow (sighting : Sighting) : Prop :=
  (Value.object sighting.attributes).depth ≤ Json.maxDepth

theorem Sighting.WellTyped.readable_iff {sighting : Sighting} (typed : sighting.WellTyped) :
    sighting.Readable ↔ sighting.Shallow :=
  typed.ordered.read?_isSome_iff Json.maxDepth

/-- All sightings of accepted bodies are such. -/
theorem shallow_of_accepted {update : Update} (accepted : update.Accepted) (seenAt : Instant) :
    (Sighting.ofUpdate update seenAt).WellTyped ∧ (Sighting.ofUpdate update seenAt).Shallow := by
  have within : (Value.object update.attributes).Within Json.maxDepth :=
    .object accepted.sound.ascending accepted.sound.nested
  exact ⟨⟨within.ordered, accuracy_of_sound accepted.sound⟩, within.depth_le⟩

theorem Holds.afterAll {table : Table} {history sightings : List Sighting}
    (holds : Holds table history) (typed : ∀ sighting ∈ sightings, sighting.WellTyped) :
    table.recorded sightings = sightings ∧
      Holds (table.afterAll sightings) (history ++ sightings) := by
  unfold Table.afterAll
  induction sightings generalizing table history with
  | nil => exact ⟨rfl, by rwa [List.append_nil]⟩
  | cons sighting rest ih =>
      obtain ⟨here, others⟩ := List.forall_mem_cons.mp typed
      obtain ⟨later, seen, held⟩ := holds.see here.ordered
      obtain ⟨recorded, all⟩ := ih held others
      rw [List.foldl_cons, Table.after, Table.recorded, seen]
      refine ⟨congrArg (sighting :: ·) recorded, ?_⟩
      rwa [List.append_assoc, List.singleton_append] at all

theorem Holds.list_isOk {table : Table} {history : List Sighting} (holds : Holds table history)
    (reflects : Reflects table history) (typed : ∀ sighting ∈ history, sighting.WellTyped)
    (shallow : ∀ sighting ∈ history, sighting.Shallow)
    (dated : ∀ sighting ∈ history, 0 ≤ sighting.seenAt.year ∧ sighting.seenAt.year ≤ 9999) :
    ∃ devices, table.list = .ok devices := by
  have each : ∀ row ∈ table.rows, ∃ device, row.read = .ok device := by
    intro row stored
    obtain ⟨last, known, _⟩ := reflects.latest_of_row stored
    obtain ⟨same, before, after, split, others⟩ := latest?_eq_some_iff.mp known
    have inside : last ∈ history := split ▸ List.mem_append_right _ List.mem_cons_self
    have legible : last.Legible := by
      refine ⟨?_, fun _ => (typed last inside).measured⟩
      rw [Instant.parse?_text (dated last inside).1 (dated last inside).2]
      rfl
    have readable (sighting : Sighting) (among : sighting ∈ history) : sighting.Readable :=
      (typed sighting among).readable_iff.mpr (shallow sighting among)
    obtain ⟨device, got⟩ := get_of_legible holds split same (same ▸ others) legible
      fun sighting among _ => readable sighting among
    obtain ⟨other, found, read⟩ := Table.get_eq_ok_some_iff.mp got
    obtain rfl : row = other :=
      Option.some.inj (((reflects.keyed.mem_rows_iff row).mp stored).symm.trans found)
    exact ⟨device, read⟩
  obtain ⟨devices, listed, _⟩ := reflects.keyed.list_of_readable each
  exact ⟨devices, listed⟩

/-- Listings are latest first. After any sightings, of which some may have failed, a listing has the
device of every recorded sighting once, in the order of their last recorded sightings and each as a
lookup answers, with the time of that sighting; it fails only when one of these lookups does. No
sighting fails, and there is a listing unless the attributes of one are nested too deep. -/
theorem list_latest_first (sightings : List Sighting)
    (dated : ∀ sighting ∈ Table.empty.recorded sightings,
      0 ≤ sighting.seenAt.year ∧ sighting.seenAt.year ≤ 9999) :
    ∃ order : List Sighting,
      (∀ sighting, sighting ∈ order ↔ Latest (Table.empty.recorded sightings) sighting) ∧
      order.Pairwise MoreRecent ∧
      (∀ devices, (Table.empty.afterAll sightings).list = .ok devices ↔
        List.Forall₂ (fun sighting device =>
          (Table.empty.afterAll sightings).get sighting.devId = .ok (some device)) order devices) ∧
      (∀ sighting ∈ order, ∀ device,
        (Table.empty.afterAll sightings).get sighting.devId = .ok (some device) →
          device.devId = sighting.devId ∧ device.lastSeenAt = sighting.seenAt.truncated) ∧
      (∀ devId, (∀ sighting ∈ Table.empty.recorded sightings, sighting.devId ≠ devId) →
        (Table.empty.afterAll sightings).get devId = .ok none) ∧
      ((∀ sighting ∈ sightings, sighting.WellTyped) →
        Table.empty.recorded sightings = sightings ∧
          ((∀ sighting ∈ sightings, sighting.Shallow) →
            ∃ devices, (Table.empty.afterAll sightings).list = .ok devices)) := by
  have reflects := reflects_empty.afterAll sightings
  rw [List.nil_append] at reflects
  refine ⟨_, reflects.mem_lastSightings, reflects.pairwise_lastSightings dated,
    fun _ => reflects.list_eq_ok_iff, ?_, fun _ => reflects.get_of_unseen, ?_⟩
  · intro sighting inside device got
    have last := (reflects.mem_lastSightings sighting).mp inside
    exact reflects.lastSeenAt_of_get last (dated sighting last.mem) got
  · intro typed
    obtain ⟨recorded, holds⟩ := holds_empty.afterAll typed
    rw [recorded] at reflects dated
    exact ⟨recorded, fun shallow => holds.list_isOk reflects typed shallow dated⟩

/-! ### Three devices -/

theorem MoreRecent.asymm {first second : Sighting} (before : MoreRecent first second) :
    ¬ MoreRecent second first := by
  unfold MoreRecent at *
  rintro (earlier | ⟨same, smaller⟩)
  · omega
  · rcases before with earlier | ⟨_, larger⟩
    · omega
    · exact List.lt_irrefl _ (List.lt_trans smaller larger)

/-- There is only one order of the same sightings. -/
theorem eq_of_pairwise_moreRecent {first second : List Sighting} (left : first.Pairwise MoreRecent)
    (right : second.Pairwise MoreRecent)
    (same : ∀ sighting, sighting ∈ first ↔ sighting ∈ second) : first = second := by
  have once {order : List Sighting} (sorted : order.Pairwise MoreRecent) : order.Nodup :=
    sorted.imp fun {earlier later} before equal => by
      subst equal
      exact before.asymm before
  have permuted := (List.perm_ext_iff_of_nodup (once left) (once right)).mpr same
  exact permuted.eq_of_pairwise (fun _ _ _ _ before after => absurd after before.asymm) left right

def plainSighting (devId : String) (microseconds : Int) : Sighting :=
  { sightingWith [] with devId, seenAt := .ofMicroseconds microseconds }

/-- A device that is seen again, and two others that are seen in one millisecond. -/
def threeDevices : List Sighting :=
  [plainSighting "c" 0, plainSighting "b" 1000400, plainSighting "a" 1000900,
    plainSighting "c" 5000000]

theorem wellTyped_plainSighting (devId : String) (microseconds : Int) :
    (plainSighting devId microseconds).WellTyped :=
  ⟨.object List.Pairwise.nil (List.forall_mem_nil _), Nat.two_pow_pos 32⟩

theorem threeDevices_wellTyped : ∀ sighting ∈ threeDevices, sighting.WellTyped := by
  unfold threeDevices
  rw [List.forall_mem_cons, List.forall_mem_cons, List.forall_mem_cons, List.forall_mem_singleton]
  exact ⟨wellTyped_plainSighting _ _, wellTyped_plainSighting _ _, wellTyped_plainSighting _ _,
    wellTyped_plainSighting _ _⟩

theorem threeDevices_shallow : ∀ sighting ∈ threeDevices, sighting.Shallow := by
  unfold threeDevices Sighting.Shallow
  decide

theorem threeDevices_dated : ∀ sighting ∈ Table.empty.recorded threeDevices,
    0 ≤ sighting.seenAt.year ∧ sighting.seenAt.year ≤ 9999 := by
  rw [(holds_empty.afterAll threeDevices_wellTyped).1]
  decide +kernel

theorem latest_threeDevices (sighting : Sighting) : Latest threeDevices sighting ↔
    sighting ∈ [plainSighting "c" 5000000, plainSighting "a" 1000900, plainSighting "b" 1000400] :=
    by
  constructor
  · intro last
    have known := latest?_eq_some_iff.mpr ⟨rfl, last⟩
    have inside := last.mem
    unfold threeDevices at inside
    simp only [List.mem_cons, List.not_mem_nil, or_false] at inside ⊢
    rcases inside with rfl | rfl | rfl | rfl
    · exact .inl (Option.some.inj known).symm
    · exact .inr (.inr rfl)
    · exact .inr (.inl rfl)
    · exact .inl rfl
  · intro inside
    have known : latest? sighting.devId threeDevices = some sighting := by
      simp only [List.mem_cons, List.not_mem_nil, or_false] at inside
      rcases inside with rfl | rfl | rfl <;> rfl
    exact (latest?_eq_some_iff.mp known).2

/-- The two devices of one millisecond come in the order of their identifiers. -/
theorem list_latest_first_of_threeDevices :
    (∀ sighting ∈ Table.empty.recorded threeDevices,
      0 ≤ sighting.seenAt.year ∧ sighting.seenAt.year ≤ 9999) ∧
    ∃ devices, (Table.empty.afterAll threeDevices).list = .ok devices ∧
      devices.map (fun device => (device.devId, device.lastSeenAt)) =
        [("c", .ofMicroseconds 5000000), ("a", .ofMicroseconds 1000000),
          ("b", .ofMicroseconds 1000000)] := by
  obtain ⟨order, members, sorted, listed, times, _, read⟩ :=
    list_latest_first threeDevices threeDevices_dated
  obtain ⟨recorded, answers⟩ := read threeDevices_wellTyped
  obtain ⟨devices, answer⟩ := answers threeDevices_shallow
  rw [recorded] at members
  have three : [plainSighting "c" 5000000, plainSighting "a" 1000900,
      plainSighting "b" 1000400].Pairwise MoreRecent := by
    unfold MoreRecent
    decide +kernel
  obtain rfl := eq_of_pairwise_moreRecent sorted three fun sighting =>
    (members sighting).trans (latest_threeDevices sighting)
  refine ⟨threeDevices_dated, devices, answer, ?_⟩
  have found := (listed devices).mp answer
  rcases found with _ | ⟨first, _ | ⟨second, _ | ⟨third, _ | _⟩⟩⟩
  obtain ⟨firstId, firstTime⟩ := times _ (by simp) _ first
  obtain ⟨secondId, secondTime⟩ := times _ (by simp) _ second
  obtain ⟨thirdId, thirdTime⟩ := times _ (by simp) _ third
  rw [List.map_cons, List.map_cons, List.map_cons, List.map_nil, firstId, firstTime, secondId,
    secondTime, thirdId, thirdTime]
  rfl

/-! ### Attributes that are nested too deep -/

theorem read_firstRow_of_deep {sighting : Sighting} (typed : sighting.WellTyped)
    (deep : ¬ sighting.Shallow) : sighting.firstRow.read = .error .attributes := by
  obtain ⟨accuracy, measured⟩ := (readAccuracy_isOk_iff sighting
    (documentOf (Json.outlineMembers sighting.attributes))).mpr fun _ => typed.measured
  have unread : (documentOf (Json.outlineMembers sighting.attributes)).members? = none := by
    apply Option.eq_none_iff_forall_ne_some.mpr
    intro attributes read
    have found := (members?_documentOf _ attributes).mp read
    exact deep (typed.readable_iff.mp (Option.isSome_of_eq_some found))
  rw [firstRow_eq]
  exact Row.read_of_unread (SourceType.parse?_text _) measured unread

def nested : Nat → Value
  | 0 => .null
  | levels + 1 => .array [nested levels]

theorem ordered_nested (levels : Nat) : (nested levels).Ordered := by
  induction levels with
  | zero => exact .null
  | succ levels ih => exact .array (List.forall_mem_singleton.mpr ih)

theorem depth_nested (levels : Nat) : (nested levels).depth = levels := by
  induction levels with
  | zero => rfl
  | succ levels ih =>
      rw [nested, Value.depth, Value.depthOfItems, Value.depthOfItems, ih, Nat.max_zero]

def nestedSighting (levels : Nat) : Sighting :=
  { plainSighting "d" 0 with attributes := [("a", nested levels)] }

theorem wellTyped_nestedSighting (levels : Nat) : (nestedSighting levels).WellTyped :=
  ⟨.object (List.pairwise_singleton _ _) (List.forall_mem_singleton.mpr (ordered_nested levels)),
    Nat.two_pow_pos 32⟩

theorem shallow_nestedSighting_iff (levels : Nat) :
    (nestedSighting levels).Shallow ↔ levels + 1 ≤ Json.maxDepth := by
  have depth : (Value.object [("a", nested levels)]).depth = levels + 1 := by
    rw [Value.depth, Value.depthOfMembers, Value.depthOfMembers, depth_nested, Nat.max_zero]
  unfold Sighting.Shallow
  rw [← depth]
  rfl

/-- A sighting of the year 1970 is recorded, and then there is no listing: its attributes cannot be
read back. -/
theorem deep_attributes_not_listed :
    (nestedSighting 127).WellTyped ∧ (nestedSighting 127).seenAt.year = 1970 ∧
      Table.empty.recorded [nestedSighting 127] = [nestedSighting 127] ∧
      (Table.empty.afterAll [nestedSighting 127]).list = .error .attributes := by
  have typed := wellTyped_nestedSighting 127
  have deep : ¬ (nestedSighting 127).Shallow := by
    rw [shallow_nestedSighting_iff]
    decide
  have listed : (Table.empty.afterAll [nestedSighting 127]).list =
      ([(nestedSighting 127).firstRow].mergeSort Table.precedes).mapM Row.read := rfl
  refine ⟨typed, by decide +kernel, rfl, ?_⟩
  rw [listed, List.mergeSort_singleton, List.mapM_cons, read_firstRow_of_deep typed deep]
  rfl

end Tracker

end PresenceGateway
