import Mathlib.Data.List.Nodup
import Mathlib.Data.List.Perm.Basic
import PresenceGateway.Proofs.Tracker.Rows
import PresenceGateway.Tracker.Recorder
/-!
Recording updates, row by row. An update changes the row of its own device, by what stands in that row
and the update alone, and no other row. So what a table answers after some updates is known once it is
known for each device, and the order of the rows makes no difference to it.
-/
namespace PresenceGateway.Tracker

/-! ### One sighting -/

/-- The row of a device after a sighting of it: a new one, or the old one with the sighting merged into
it. A row that cannot be merged into stays as it is. -/
def Sighting.change (sighting : Sighting) : Option Row → Row
  | none => sighting.firstRow
  | some row => (row.after? sighting).getD row

def Sighting.applyTo (rows : String → Option Row) (sighting : Sighting) : String → Option Row :=
  fun devId => if sighting.devId = devId then some (sighting.change (rows devId)) else rows devId

namespace Table

/-- The table after a sighting, which is the old one when the sighting fails. -/
def after (table : Table) (sighting : Sighting) : Table :=
  match table.see sighting with
  | .ok later => later
  | .error _ => table

theorem devId_of_after? {row later : Row} {sighting : Sighting}
    (merged : row.after? sighting = some later) : later.devId = sighting.devId := by
  obtain ⟨document, _, rfl⟩ := Option.map_eq_some_iff.mp merged
  rfl

theorem devId_of_row? {table : Table} {devId : String} {row : Row}
    (found : table.row? devId = some row) : row.devId = devId := by
  simpa using List.find?_some found

theorem row?_after (table : Table) (sighting : Sighting) :
    (table.after sighting).row? = sighting.applyTo table.row? := by
  funext devId
  unfold after see Sighting.applyTo
  cases found : table.row? sighting.devId with
  | none =>
      dsimp only
      rw [row?_append]
      by_cases same : sighting.devId = devId
      · subst same
        rw [found, if_pos rfl]
        exact if_pos rfl
      · rw [if_neg same, if_neg (show ¬ sighting.firstRow.devId = devId from same), Option.or_none]
  | some row =>
      dsimp only
      cases merged : row.after? sighting with
      | none =>
          by_cases same : sighting.devId = devId
          · subst same
            rw [if_pos rfl, found, Sighting.change, merged, Option.getD_none]
          · rw [if_neg same]
      | some later =>
          dsimp only
          rw [row?_replace, devId_of_after? merged]
          by_cases same : sighting.devId = devId
          · subst same
            rw [if_pos rfl, if_pos rfl, found, Option.map_some, Sighting.change, merged,
              Option.getD_some]
          · rw [if_neg same, if_neg same]

/-! ### The primary key -/

def Keyed (table : Table) : Prop :=
  (table.rows.map Row.devId).Nodup

theorem keyed_empty : Keyed .empty := List.nodup_nil

theorem Keyed.after {table : Table} (keyed : table.Keyed) (sighting : Sighting) :
    (table.after sighting).Keyed := by
  unfold Table.after see
  cases found : table.row? sighting.devId with
  | none =>
      dsimp only
      have fresh : sighting.devId ∉ table.rows.map Row.devId := by
        intro present
        obtain ⟨row, inside, same⟩ := List.mem_map.mp present
        have absent := List.find?_eq_none.mp found row inside
        simp [same] at absent
      unfold Keyed
      rw [List.map_append, List.nodup_append]
      refine ⟨keyed, List.nodup_singleton _, ?_⟩
      rintro first present second last rfl
      obtain rfl : first = sighting.devId := List.mem_singleton.mp last
      exact fresh present
  | some row =>
      dsimp only
      cases merged : row.after? sighting with
      | none => exact keyed
      | some later =>
          have sameIds : (table.replace later).rows.map Row.devId = table.rows.map Row.devId := by
            unfold replace
            rw [List.map_map]
            refine List.map_congr_left fun old _ => ?_
            dsimp only [Function.comp]
            split
            · rename_i same
              exact same.symm
            · rfl
          unfold Keyed
          rw [sameIds]
          exact keyed

theorem Keyed.mem_rows_iff {table : Table} (keyed : table.Keyed) (row : Row) :
    row ∈ table.rows ↔ table.row? row.devId = some row := by
  constructor
  · intro inside
    cases found : table.row? row.devId with
    | none =>
        have absent := List.find?_eq_none.mp found row inside
        simp at absent
    | some other =>
        have stored : other ∈ table.rows := List.mem_of_find?_eq_some found
        have same := List.inj_on_of_nodup_map keyed stored inside (devId_of_row? found)
        rw [same]
  · exact List.mem_of_find?_eq_some

/-! ### Tables that hold the same -/

def Same (first second : Table) : Prop :=
  first.rows.Perm second.rows

theorem same_of_row?_eq {first second : Table} (left : first.Keyed) (right : second.Keyed)
    (rows : first.row? = second.row?) : first.Same second := by
  have leftRows : first.rows.Nodup := List.Nodup.of_map _ left
  have rightRows : second.rows.Nodup := List.Nodup.of_map _ right
  refine (List.perm_ext_iff_of_nodup leftRows rightRows).mpr fun row => ?_
  rw [left.mem_rows_iff, right.mem_rows_iff, rows]

theorem precedes_total (first second : Row) :
    (precedes first second || precedes second first) = true := by
  unfold precedes
  by_cases same : first.lastSeenAt = second.lastSeenAt
  · rw [if_pos same, if_pos same.symm, Bool.or_eq_true, decide_eq_true_eq, decide_eq_true_eq]
    exact String.le_total _ _
  · rw [if_neg same, if_neg (Ne.symm same), Bool.or_eq_true, decide_eq_true_eq, decide_eq_true_eq]
    apply Decidable.byContradiction
    intro neither
    obtain ⟨notAfter, notBefore⟩ := not_or.mp neither
    exact same (String.le_antisymm notAfter notBefore)

theorem precedes_trans (first second third : Row) (left : precedes first second = true)
    (right : precedes second third = true) : precedes first third = true := by
  unfold precedes at left right ⊢
  by_cases sameLeft : first.lastSeenAt = second.lastSeenAt
  · rw [if_pos sameLeft, decide_eq_true_eq] at left
    rw [sameLeft]
    by_cases sameRight : second.lastSeenAt = third.lastSeenAt
    · rw [if_pos sameRight, decide_eq_true_eq] at right ⊢
      exact String.le_trans left right
    · rw [if_neg sameRight] at right ⊢
      exact right
  · rw [if_neg sameLeft, decide_eq_true_eq] at left
    by_cases sameRight : second.lastSeenAt = third.lastSeenAt
    · rw [if_neg (sameRight ▸ sameLeft), decide_eq_true_eq, ← sameRight]
      exact left
    · rw [if_neg sameRight, decide_eq_true_eq] at right
      have later := String.lt_trans right left
      rw [if_neg (fun same => String.lt_irrefl _ (same ▸ later)), decide_eq_true_eq]
      exact later

theorem precedes_antisymm {first second : Row} (left : precedes first second = true)
    (right : precedes second first = true) : first.devId = second.devId := by
  unfold precedes at left right
  by_cases same : first.lastSeenAt = second.lastSeenAt
  · rw [if_pos same, decide_eq_true_eq] at left
    rw [if_pos same.symm, decide_eq_true_eq] at right
    exact String.le_antisymm left right
  · rw [if_neg same, decide_eq_true_eq] at left
    rw [if_neg (Ne.symm same), decide_eq_true_eq] at right
    exact absurd (String.lt_trans left right) (String.lt_irrefl _)

/-- A listing does not depend on the order of the rows. -/
theorem Same.list_eq {first second : Table} (same : first.Same second) (keyed : first.Keyed) :
    first.list = second.list := by
  have sorted (table : Table) : (table.rows.mergeSort precedes).Pairwise
      fun earlier later => precedes earlier later = true :=
    List.pairwise_mergeSort precedes_trans precedes_total table.rows
  have permuted : (first.rows.mergeSort precedes).Perm (second.rows.mergeSort precedes) :=
    ((List.mergeSort_perm _ _).trans same).trans (List.mergeSort_perm _ _).symm
  have single (left right : Row) (inside : left ∈ first.rows.mergeSort precedes)
      (within : right ∈ second.rows.mergeSort precedes) (before : precedes left right = true)
      (after : precedes right left = true) : left = right := by
    have stored : left ∈ first.rows := List.mem_mergeSort.mp inside
    have storedToo : right ∈ first.rows := same.mem_iff.mpr (List.mem_mergeSort.mp within)
    exact List.inj_on_of_nodup_map keyed stored storedToo (precedes_antisymm before after)
  unfold list
  rw [permuted.eq_of_pairwise single (sorted first) (sorted second)]

/-! ### Many sightings -/

/-- The table after some sightings, of which those that fail change nothing. -/
def afterAll (table : Table) (sightings : List Sighting) : Table :=
  sightings.foldl after table

theorem row?_afterAll (table : Table) (sightings : List Sighting) :
    (table.afterAll sightings).row? = sightings.foldl Sighting.applyTo table.row? := by
  unfold afterAll
  induction sightings generalizing table with
  | nil => rfl
  | cons sighting rest ih => rw [List.foldl_cons, List.foldl_cons, ih, row?_after]

theorem Keyed.afterAll {table : Table} (keyed : table.Keyed) (sightings : List Sighting) :
    (table.afterAll sightings).Keyed := by
  unfold Table.afterAll
  induction sightings generalizing table with
  | nil => exact keyed
  | cons sighting rest ih => exact ih (keyed.after sighting)

theorem row?_afterAll_of_unseen (table : Table) {sightings : List Sighting} {devId : String}
    (unseen : ∀ sighting ∈ sightings, sighting.devId ≠ devId) :
    (table.afterAll sightings).row? devId = table.row? devId := by
  unfold afterAll
  induction sightings generalizing table with
  | nil => rfl
  | cons sighting rest ih =>
      obtain ⟨other, others⟩ := List.forall_mem_cons.mp unseen
      rw [List.foldl_cons, ih _ others, row?_after, Sighting.applyTo, if_neg other]

end Table

/-! ### The recorder -/

namespace Recorder

theorem record_snd (recorder : Recorder) (update : Update) :
    (recorder.record update).2 =
      { recorder with table := recorder.table.after (.ofUpdate update recorder.now) } := by
  unfold record Table.after
  cases recorder.table.see (.ofUpdate update recorder.now) <;> rfl

def recordAll (recorder : Recorder) (updates : List Update) : Recorder :=
  updates.foldl (fun recorder update => (recorder.record update).2) recorder

theorem recordAll_eq (recorder : Recorder) (updates : List Update) :
    recorder.recordAll updates = { recorder with
      table := recorder.table.afterAll
        (updates.map fun update => .ofUpdate update recorder.now) } := by
  unfold recordAll Table.afterAll
  induction updates generalizing recorder with
  | nil => rfl
  | cons update rest ih => rw [List.foldl_cons, record_snd, ih, List.map_cons, List.foldl_cons]

end Recorder

end PresenceGateway.Tracker
