import PresenceGateway.Text.Quoted
import PresenceGateway.Log.Event
/-!
Entries: a NAS as the user set it up, with the devices registered for it.

Old entries are brought up to date when they are set up. A device whose first identifier has more
than two parts gets a single identifier of two, and an entry that does not say whether certificates
are checked is told not to check them.
-/
namespace PresenceGateway.Nas

inductive Domain where
  | central
  | cameras
  | switches
deriving DecidableEq

namespace Domain

def text : Domain → String
  | central => "central"
  | cameras => "cameras"
  | switches => "switches"

def parse? (text : String) : Option Domain :=
  if text = "central" then some central
  else if text = "cameras" then some cameras
  else if text = "switches" then some switches
  else none

def period : Domain → Nat
  | central => 900
  | cameras => 30
  | switches => 30

end Domain

structure EntryData where
  host : String
  port : Nat
  useHttps : Bool
  username : String
  password : String
  verifySsl : Option Bool
  macs : List String
deriving DecidableEq

namespace EntryData

def defaultVerifySsl : Bool := false

def migrated (data : EntryData) : EntryData :=
  { data with verifySsl := some (data.verifySsl.getD defaultVerifySsl) }

def needsMigration (data : EntryData) : Bool :=
  data.verifySsl.isNone

def debugText (data : EntryData) : String :=
  let flag := fun (b : Bool) => if b then "true" else "false"
  "EntryData \x7b host: " ++ Text.quote data.host ++ ", port: " ++ toString data.port
    ++ ", use_https: " ++ flag data.useHttps ++ ", username: " ++ Text.quote data.username
    ++ ", password: " ++ Text.quote "***" ++ ", verify_ssl: "
    ++ (match data.verifySsl with
        | none => "None"
        | some choice => "Some(" ++ flag choice ++ ")")
    ++ ", macs: " ++ Text.bracketed (data.macs.map Text.quote) ++ " \x7d"

end EntryData

structure Device where
  id : String
  identifiers : List (List String)
deriving DecidableEq

structure Migration where
  deviceId : String
  old : List String
  new : String × String
deriving DecidableEq

namespace Device

/-- The rewriting that a device needs, if its first identifier has more than two parts. -/
def migration? (device : Device) : Option Migration :=
  match device.identifiers with
  | (space :: first :: second :: more) :: _ =>
    some {
      deviceId := device.id
      old := space :: first :: second :: more
      new := (space, String.intercalate "_" (first :: second :: more)) }
  | _ => none

def plan (devices : List Device) : List Migration :=
  devices.filterMap migration?

def applyTo (migration : Migration) : List Device → List Device
  | [] => []
  | device :: rest =>
    if device.id = migration.deviceId then
      { device with identifiers := [[migration.new.1, migration.new.2]] } :: rest
    else device :: applyTo migration rest

def applyAll (migrations : List Migration) (devices : List Device) : List Device :=
  migrations.foldl (fun devices migration => applyTo migration devices) devices

structure Migrated where
  devices : List Device
  applied : List Migration

def migrateAll (devices : List Device) : Migrated :=
  let migrations := plan devices
  { devices := applyAll migrations devices, applied := migrations }

def migrate (devices : List Device) : List Device :=
  (migrateAll devices).devices

end Device

structure Entry where
  entryId : String
  uniqueId : String
  data : EntryData
  devices : List Device
deriving DecidableEq

namespace Entry

def migrated (entry : Entry) : Entry :=
  { entry with
    data := entry.data.migrated
    devices := Device.migrate entry.devices }

def migrationLog (entry : Entry) : List Log.Event :=
  (Device.migrateAll entry.devices).applied.map fun migration => {
    level := .debug
    target := .entry
    message := "migrated device identifier"
    fields := [
      ("entry_id", .shown entry.entryId),
      ("device_id", .shown migration.deviceId),
      ("from", .shown (Text.bracketed (migration.old.map Text.quote))),
      ("to", .shown ("(" ++ Text.quote migration.new.1 ++ ", " ++ Text.quote migration.new.2
        ++ ")"))] }

end Entry

end PresenceGateway.Nas
