import PresenceGateway.Json.Document
import PresenceGateway.Presence.Update
import PresenceGateway.Time.Instant
import PresenceGateway.Tracker.Cell
/-!
The table of tracked devices.

There is one row for each device. A sighting of a new device adds a row, and a sighting of a known one
replaces all of its row but the attributes, into which the new attributes are merged. A row has a
position with an accuracy or neither. Reading a row back can fail only when what is stored in it was
changed from outside.
-/
namespace PresenceGateway.Tracker

open Json (Document Members)

structure Sighting where
  devId : String
  mac : String
  hostName : String
  sourceType : SourceType
  gps : Option (String × String)
  gpsAccuracy : Option Nat
  attributes : Members
  seenAt : Instant

structure Position where
  latitude : String
  longitude : String
  accuracy : Cell

structure Row where
  devId : String
  mac : String
  hostName : String
  sourceType : String
  position : Option Position
  attributes : Document
  lastSeenAt : String

structure Device where
  devId : String
  mac : String
  hostName : String
  sourceType : SourceType
  gps : Option (String × String)
  gpsAccuracy : Option Nat
  attributes : Members
  lastSeenAt : Instant

inductive TableError where
  | database (cause : String)
  | attributes
  | corrupt (field value : String)
deriving DecidableEq

def TableError.message : TableError → String
  | database cause => "database error: " ++ cause
  | attributes => "failed to decode attributes json"
  | corrupt field value => "invalid stored value for " ++ field ++ ": " ++ value

namespace Sighting

/-- The position of a sighting. An accuracy that is missing is 0, and one without a position does not
count. -/
def position (sighting : Sighting) : Option Position :=
  sighting.gps.map fun place => {
    latitude := place.1
    longitude := place.2
    accuracy := .integer (sighting.gpsAccuracy.getD 0) }

def toRow (sighting : Sighting) (attributes : Document) : Row :=
  { devId := sighting.devId
    mac := sighting.mac
    hostName := sighting.hostName
    sourceType := sighting.sourceType.text
    position := sighting.position
    attributes
    lastSeenAt := sighting.seenAt.text }

def firstRow (sighting : Sighting) : Row :=
  sighting.toRow (.ofMembers sighting.attributes)

end Sighting

namespace Row

/-- The row after a sighting of its device, unless the stored attributes are not even relaxed JSON. -/
def after? (row : Row) (sighting : Sighting) : Option Row :=
  (row.attributes.merge? (.ofMembers sighting.attributes)).map sighting.toRow

def readAccuracy (row : Row) : Except TableError (Option Nat) :=
  match row.position with
  | none => .ok none
  | some position =>
    match position.accuracy with
    | .integer value =>
      if 0 ≤ value ∧ value < 0x100000000 then .ok (some value.toNat)
      else .error (.corrupt "gps_accuracy" (toString value))
    | .text _ => .error (.database "mismatched types in column gps_accuracy")

def read (row : Row) : Except TableError Device := do
  let sourceType ← match SourceType.parse? row.sourceType with
    | some sourceType => .ok sourceType
    | none => .error (.corrupt "source_type" row.sourceType)
  let gpsAccuracy ← row.readAccuracy
  let attributes ← match row.attributes.members? with
    | some attributes => .ok attributes
    | none => .error .attributes
  let lastSeenAt ← match Instant.parse? row.lastSeenAt with
    | some instant => .ok instant
    | none => .error (.corrupt "last_seen_at" row.lastSeenAt)
  return {
    devId := row.devId, mac := row.mac, hostName := row.hostName, sourceType
    gps := row.position.map fun position => (position.latitude, position.longitude)
    gpsAccuracy, attributes, lastSeenAt }

end Row

/-- The table: its rows in the order in which the devices were first seen. -/
structure Table where
  rows : List Row

namespace Table

def empty : Table := { rows := [] }

def row? (table : Table) (devId : String) : Option Row :=
  table.rows.find? fun row => row.devId = devId

def replace (table : Table) (row : Row) : Table :=
  { rows := table.rows.map fun old => if old.devId = row.devId then row else old }

def see (table : Table) (sighting : Sighting) : Except TableError Table :=
  match table.row? sighting.devId with
  | none => .ok { rows := table.rows ++ [sighting.firstRow] }
  | some row =>
    match row.after? sighting with
    | some later => .ok (table.replace later)
    | none => .error (.database "error returned from database: (code: 1) malformed JSON")

def get (table : Table) (devId : String) : Except TableError (Option Device) :=
  match table.row? devId with
  | none => .ok none
  | some row => row.read.map some

/-- Whether a row comes before another one in a listing: the later sighting first, then the smaller
identifier. -/
def precedes (first second : Row) : Bool :=
  if first.lastSeenAt = second.lastSeenAt then decide (first.devId ≤ second.devId)
  else decide (second.lastSeenAt < first.lastSeenAt)

def list (table : Table) : Except TableError (List Device) :=
  (table.rows.mergeSort precedes).mapM Row.read

end Table

/-! ### Changes from outside -/

inductive Column where
  | sourceType
  | gpsAccuracy
  | attributes
  | lastSeenAt
  | hostName
deriving DecidableEq

def Column.parse? (name : String) : Option Column :=
  if name = "source_type" then some sourceType
  else if name = "gps_accuracy" then some gpsAccuracy
  else if name = "attributes_json" then some attributes
  else if name = "last_seen_at" then some lastSeenAt
  else if name = "host_name" then some hostName
  else none

namespace Row

def column? (row : Row) : Column → Option String
  | .sourceType => some row.sourceType
  | .gpsAccuracy => row.position.map fun position => position.accuracy.shown
  | .attributes => some row.attributes.text
  | .lastSeenAt => some row.lastSeenAt
  | .hostName => some row.hostName

def withColumn? (row : Row) (value : Cell) : Column → Option Row
  | .sourceType => some { row with sourceType := value.shown }
  | .gpsAccuracy => row.position.map fun position =>
    { row with position := some { position with accuracy := value.asInteger } }
  | .attributes => some { row with attributes := .found value.shown }
  | .lastSeenAt => some { row with lastSeenAt := value.shown }
  | .hostName => some { row with hostName := value.shown }

end Row

/-- The table with another value in a column of a device. Nothing happens to a device that is not
there. -/
def Table.put (table : Table) (devId : String) (column : Column) (value : Cell) :
    Except TableError Table :=
  match table.row? devId with
  | none => .ok table
  | some row =>
    match row.withColumn? value column with
    | some later => .ok (table.replace later)
    | none => .error (.database "error returned from database: (code: 275) CHECK constraint failed")

end PresenceGateway.Tracker
