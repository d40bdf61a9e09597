import PresenceGateway.Tracker.Table
import PresenceGateway.Proofs.Json.Writing
import PresenceGateway.Proofs.Sequencing
/-!
The rows of the device table after a run of sightings. What the table holds of a device is the last
sighting of it and the attributes of all of them, the first as they are and each later one merged
into what was there. The invariant says that the row of each device is this memory written down; a
sighting never fails, and it only touches the row of its own device.
-/
namespace PresenceGateway.Tracker

open Json (Value Members Outline Document Tree)

abbrev StoredMembers := List (String × Outline String Value)

def documentOf (members : StoredMembers) : Document :=
  .written (Tree.ofOutline (Outline.object members).written)

def mergeSighting (stored : Option StoredMembers) (sighting : Sighting) : StoredMembers :=
  match stored with
  | none => Json.outlineMembers sighting.attributes
  | some members => Outline.mergeMembers members (Json.outlineMembers sighting.attributes)

def remember (devId : String) (memory : Option (Sighting × StoredMembers)) (sighting : Sighting) :
    Option (Sighting × StoredMembers) :=
  if sighting.devId = devId then some (sighting, mergeSighting (memory.map (·.2)) sighting)
  else memory

def memory (devId : String) (history : List Sighting) : Option (Sighting × StoredMembers) :=
  history.foldl (remember devId) none

theorem memory_concat (devId : String) (history : List Sighting) (sighting : Sighting) :
    memory devId (history ++ [sighting]) = remember devId (memory devId history) sighting := by
  rw [memory, List.foldl_append]
  rfl

/-! ### Rows by device -/

namespace Table

theorem row?_append (table : Table) (row : Row) (devId : String) :
    row? { rows := table.rows ++ [row] } devId =
      (table.row? devId).or (if row.devId = devId then some row else none) := by
  unfold row?
  rw [List.find?_append, List.find?_singleton]
  by_cases same : row.devId = devId <;> simp [same]

theorem row?_replace (table : Table) (row : Row) (devId : String) :
    (table.replace row).row? devId =
      if row.devId = devId then (table.row? devId).map fun _ => row else table.row? devId := by
  obtain ⟨rows⟩ := table
  unfold row? replace
  dsimp only
  induction rows with
  | nil => simp
  | cons head tail ih =>
      rw [List.map_cons, List.find?_cons, List.find?_cons, ih]
      by_cases own : head.devId = row.devId
      · rw [if_pos own]
        by_cases same : row.devId = devId
        · simp [same, own]
        · simp [same, own]
      · rw [if_neg own]
        by_cases same : row.devId = devId
        · have apart : ¬ head.devId = devId := fun equal => own (equal.trans same.symm)
          simp [same, apart]
        · rw [if_neg same, if_neg same]

end Table

/-! ### The invariant -/

/-- The attributes of a sighting as they come from a JSON object in which nothing is null at the
top: all keys inside ascend. -/
structure Sighting.Normal (sighting : Sighting) : Prop where
  ordered : Value.Ordered (.object sighting.attributes)
  noNull : ∀ key, sighting.attributes.get? key ≠ some .null

def rowOf (memory : Sighting × StoredMembers) : Row :=
  memory.1.toRow (documentOf memory.2)

/-- A table holds a history when the row of each device is what is remembered of it. -/
structure Holds (table : Table) (history : List Sighting) : Prop where
  rows : ∀ devId, table.row? devId = (memory devId history).map rowOf
  sound : ∀ devId last members, memory devId history = some (last, members) →
    last.devId = devId ∧ (Outline.object members).WellFormed Value.IsLeaf

theorem holds_empty : Holds .empty [] := by
  refine ⟨fun _ => rfl, ?_⟩
  intro devId last members impossible
  cases impossible

theorem Sighting.Normal.wellFormed {sighting : Sighting} (normal : sighting.Normal) :
    (Outline.object (Json.outlineMembers sighting.attributes)).WellFormed Value.IsLeaf :=
  normal.ordered.outline

theorem firstRow_eq (sighting : Sighting) :
    sighting.firstRow = rowOf (sighting, mergeSighting none sighting) := by
  have written := Tree.ofOutline_written (.object sighting.attributes)
  unfold Sighting.firstRow rowOf documentOf Document.ofMembers
  rw [← written]
  rfl

/-- A sighting is merged into the row of its device, which never fails. -/
theorem after?_rowOf (last : Sighting) {sighting : Sighting} {members : StoredMembers}
    (sound : (Outline.object members).WellFormed Value.IsLeaf)
    (ordered : Value.Ordered (.object sighting.attributes)) :
    (rowOf (last, members)).after? sighting =
      some (rowOf (sighting, mergeSighting (some members) sighting)) := by
  have written := Tree.ofOutline_written (.object sighting.attributes)
  have merged := Tree.merge_ofOutline sound ordered.outline
  unfold Row.after? rowOf Document.ofMembers
  rw [← written]
  exact congrArg (fun tree => some (sighting.toRow (.written tree))) merged

theorem mergeSighting_wellFormed {stored : Option StoredMembers} {sighting : Sighting}
    (sound : ∀ members, stored = some members →
      (Outline.object members).WellFormed Value.IsLeaf)
    (ordered : Value.Ordered (.object sighting.attributes)) :
    (Outline.object (mergeSighting stored sighting)).WellFormed Value.IsLeaf := by
  cases stored with
  | none => exact ordered.outline
  | some members => exact (sound members rfl).merge ordered.outline

theorem remember_sound {history : List Sighting} {sighting : Sighting}
    (sound : ∀ devId last members, memory devId history = some (last, members) →
      last.devId = devId ∧ (Outline.object members).WellFormed Value.IsLeaf)
    (ordered : Value.Ordered (.object sighting.attributes)) (devId : String) (last : Sighting)
    (members : StoredMembers)
    (remembered : memory devId (history ++ [sighting]) = some (last, members)) :
    last.devId = devId ∧ (Outline.object members).WellFormed Value.IsLeaf := by
  rw [memory_concat, remember] at remembered
  split at remembered
  · rename_i same
    cases remembered
    refine ⟨same, mergeSighting_wellFormed ?_ ordered⟩
    intro stored found
    obtain ⟨⟨earlier, _⟩, known, rfl⟩ := Option.map_eq_some_iff.mp found
    exact (sound devId earlier _ known).2
  · exact sound devId last members remembered

theorem Holds.see {table : Table} {history : List Sighting} {sighting : Sighting}
    (holds : Holds table history) (ordered : Value.Ordered (.object sighting.attributes)) :
    ∃ later, table.see sighting = .ok later ∧ Holds later (history ++ [sighting]) := by
  have sound := remember_sound holds.sound ordered
  unfold Table.see
  cases found : table.row? sighting.devId with
  | none =>
      refine ⟨_, rfl, fun devId => ?_, sound⟩
      rw [Table.row?_append, holds.rows, memory_concat, remember]
      by_cases same : sighting.devId = devId
      · have unknown : memory devId history = none := by
          rw [holds.rows, same] at found
          exact Option.map_eq_none_iff.mp found
        rw [if_pos same, unknown, firstRow_eq]
        exact if_pos same
      · rw [if_neg same, if_neg (show ¬ sighting.firstRow.devId = devId from same), Option.or_none]
  | some row =>
      rw [holds.rows] at found
      obtain ⟨⟨last, members⟩, known, rfl⟩ := Option.map_eq_some_iff.mp found
      have later := after?_rowOf last (holds.sound _ _ _ known).2 ordered
      dsimp only
      rw [later]
      refine ⟨_, rfl, fun devId => ?_, sound⟩
      rw [Table.row?_replace, holds.rows, memory_concat, remember]
      by_cases same : sighting.devId = devId
      · rw [if_pos same, if_pos (show (rowOf (sighting, _)).devId = devId from same), ← same, known]
        rfl
      · rw [if_neg same, if_neg (show ¬ (rowOf (sighting, _)).devId = devId from same)]

def Table.record (history : List Sighting) : Except TableError Table :=
  history.foldlM Table.see .empty

/-- Every history can be recorded, and the table then holds it. -/
theorem record_holds {history : List Sighting} (normal : ∀ sighting ∈ history, sighting.Normal) :
    ∃ table, Table.record history = .ok table ∧ Holds table history := by
  have recorded (rest earlier : List Sighting) (table : Table) (holds : Holds table earlier)
      (normal : ∀ sighting ∈ rest, sighting.Normal) :
      ∃ later, rest.foldlM Table.see table = .ok later ∧ Holds later (earlier ++ rest) := by
    induction rest generalizing earlier table with
    | nil => exact ⟨table, rfl, by rwa [List.append_nil]⟩
    | cons sighting rest ih =>
        obtain ⟨first, others⟩ := List.forall_mem_cons.mp normal
        obtain ⟨next, seen, held⟩ := holds.see first.ordered
        obtain ⟨later, recorded, held⟩ := ih (earlier ++ [sighting]) next held others
        refine ⟨later, ?_, ?_⟩
        · rw [List.foldlM_cons, seen]
          exact recorded
        · rwa [List.append_assoc, List.singleton_append] at held
  exact recorded history [] .empty holds_empty normal

end PresenceGateway.Tracker
