import PresenceGateway.Proofs.Tracker.Rows
/-!
Reading rows back. A row that was written from a sighting can be read when its time can, when its
accuracy has 32 bits and when its attributes are JSON that can be read; then the device that is
found is the last sighting of it, with the attributes that are read.
-/
namespace PresenceGateway.Tracker

open Json (Value Members Outline Document)

/-! ### Reading a row -/

/-- Whether the columns of a sighting beside the attributes can be read back: its time, and an
accuracy of 32 bits. -/
def Sighting.Legible (sighting : Sighting) : Prop :=
  (Instant.parse? sighting.seenAt.text).isSome ∧
    (sighting.gps.isSome → sighting.gpsAccuracy.getD 0 < 0x100000000)

theorem Row.read_eq_ok_iff {row : Row} {device : Device} :
    row.read = .ok device ↔ ∃ sourceType accuracy attributes instant,
      SourceType.parse? row.sourceType = some sourceType ∧ row.readAccuracy = .ok accuracy ∧
      row.attributes.members? = some attributes ∧ Instant.parse? row.lastSeenAt = some instant ∧
      device = {
        devId := row.devId, mac := row.mac, hostName := row.hostName, sourceType
        gps := row.position.map fun position => (position.latitude, position.longitude)
        gpsAccuracy := accuracy, attributes, lastSeenAt := instant } := by
  constructor
  · intro read
    unfold Row.read at read
    cases source : SourceType.parse? row.sourceType with
    | none =>
        rw [source] at read
        cases read
    | some sourceType =>
        rw [source] at read
        obtain ⟨_, known, read⟩ := bind_eq_ok_iff.mp read
        cases known
        obtain ⟨accuracy, measured, read⟩ := bind_eq_ok_iff.mp read
        cases members : row.attributes.members? with
        | none =>
            rw [members] at read
            cases read
        | some attributes =>
            rw [members] at read
            cases time : Instant.parse? row.lastSeenAt with
            | none =>
                rw [time] at read
                cases read
            | some instant =>
                rw [time] at read
                cases read
                exact ⟨sourceType, accuracy, attributes, instant, rfl, measured, rfl, rfl, rfl⟩
  · rintro ⟨sourceType, accuracy, attributes, instant, source, measured, members, time, rfl⟩
    unfold Row.read
    rw [source, measured, members, time]
    rfl

theorem Row.read_of_unread {row : Row} {sourceType : SourceType} {accuracy : Option Nat}
    (source : SourceType.parse? row.sourceType = some sourceType)
    (measured : row.readAccuracy = .ok accuracy) (unread : row.attributes.members? = none) :
    row.read = .error .attributes := by
  unfold Row.read
  rw [source, measured, unread]
  rfl

theorem SourceType.parse?_text (sourceType : SourceType) :
    SourceType.parse? sourceType.text = some sourceType := by
  cases sourceType <;> rfl

theorem readAccuracy_isOk_iff (last : Sighting) (attributes : Document) :
    (∃ accuracy, (last.toRow attributes).readAccuracy = .ok accuracy) ↔
      (last.gps.isSome → last.gpsAccuracy.getD 0 < 0x100000000) := by
  unfold Row.readAccuracy Sighting.toRow Sighting.position
  cases last.gps with
  | none => simp
  | some place =>
      simp only [Option.map_some, Option.isSome_some, true_implies]
      have natural : (0 : Int) ≤ (last.gpsAccuracy.getD 0 : Int) := Int.natCast_nonneg _
      by_cases fits : last.gpsAccuracy.getD 0 < 0x100000000
      · rw [if_pos ⟨natural, by omega⟩]
        exact iff_of_true ⟨_, rfl⟩ fits
      · rw [if_neg (by omega)]
        exact iff_of_false (by simp) fits

theorem members?_documentOf (members : StoredMembers) (attributes : Members) :
    (documentOf members).members? = some attributes ↔
      (Outline.object members).read? Json.maxDepth = some (.object attributes) := by
  unfold Document.members? documentOf Document.tree?
  rw [Option.bind_some]
  change (Outline.read? Json.maxDepth (.object members)).bind Value.members? = _ ↔ _
  cases read : Outline.read? Json.maxDepth (.object members) with
  | none => simp
  | some value => cases value <;> simp [Value.members?]

theorem readable_members {members : StoredMembers}
    (readable : ((Outline.object members).read? Json.maxDepth).isSome) :
    ∃ attributes, (documentOf members).members? = some attributes := by
  obtain ⟨value, read⟩ := Option.isSome_iff_exists.mp readable
  have object := read
  rw [show Json.maxDepth = (Json.maxDepth - 1) + 1 from rfl, Outline.read?_object] at object
  obtain ⟨pairs, _, rfl⟩ := Option.map_eq_some_iff.mp object
  exact ⟨_, (members?_documentOf members _).mpr read⟩

/-! ### Looking devices up -/

theorem Table.get_eq_ok_some_iff {table : Table} {devId : String} {device : Device} :
    table.get devId = .ok (some device) ↔
      ∃ row, table.row? devId = some row ∧ row.read = .ok device := by
  unfold Table.get
  cases table.row? devId with
  | none => simp
  | some row =>
      dsimp only
      cases read : row.read with
      | error cause => simp [Except.map, read]
      | ok found => simp [Except.map, read]

/-- A device that is found is read from what is remembered of it. -/
theorem get_eq_ok_some_iff {table : Table} {history : List Sighting} (holds : Holds table history)
    {devId : String} {device : Device} :
    table.get devId = .ok (some device) ↔ ∃ last members,
      memory devId history = some (last, members) ∧
        (rowOf (last, members)).read = .ok device := by
  rw [Table.get_eq_ok_some_iff, holds.rows]
  constructor
  · rintro ⟨row, stored, read⟩
    obtain ⟨⟨last, members⟩, known, rfl⟩ := Option.map_eq_some_iff.mp stored
    exact ⟨last, members, known, read⟩
  · rintro ⟨last, members, known, read⟩
    exact ⟨rowOf (last, members), by rw [known, Option.map_some], read⟩

end PresenceGateway.Tracker
