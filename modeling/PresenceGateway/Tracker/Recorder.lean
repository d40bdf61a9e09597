import PresenceGateway.Presence.Sink
import PresenceGateway.Tracker.Table
/-!
The sink that records updates in the device table.
-/
namespace PresenceGateway.Tracker

/-- The sighting of an update at an instant. Coordinates are recorded as they are displayed. -/
def Sighting.ofUpdate (update : Update) (seenAt : Instant) : Sighting :=
  { devId := update.devId
    mac := update.mac
    hostName := update.hostName
    sourceType := update.sourceType
    gps := update.gps.map fun place => (place.1.display, place.2.display)
    gpsAccuracy := update.gpsAccuracy
    attributes := update.attributes
    seenAt }

def logFields (update : Update) : List (String × Log.Field) :=
  [("stage", .text "tracker"), ("dev_id", .shown update.devId)]

def seenLog (update : Update) : Log.Event :=
  { level := .debug, target := .tracker, message := "device seen"
    fields := logFields update ++ [("has_gps", .flag update.gps.isSome)] }

def failedLog (update : Update) (message cause : String) : Log.Event :=
  { level := .error, target := .tracker, message
    fields := logFields update ++ [("error", .shown cause)] }

def failure (update : Update) : TableError → SinkAnswer
  | .database cause => {
      result := .error (.unavailable cause)
      log := [failedLog update "failed to record sighting" cause] }
  | error => {
      result := .error (.rejected update.devId error.message)
      log := [failedLog update "stored device record is unreadable" error.message] }

structure Recorder where
  table : Table
  now : Instant

def Recorder.record (update : Update) (recorder : Recorder) : SinkAnswer × Recorder :=
  match recorder.table.see (.ofUpdate update recorder.now) with
  | .ok table => ({ result := .ok (), log := [seenLog update] }, { recorder with table })
  | .error error => (failure update error, recorder)

def sink : Sink Recorder :=
  { see := fun update recorder => some (recorder.record update) }

end PresenceGateway.Tracker
