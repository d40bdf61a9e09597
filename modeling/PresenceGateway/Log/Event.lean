import PresenceGateway.Text.Quoted
/-!
Log events.

An event has a level, the part of the program that it comes from, a message and named fields. A
field keeps how it was recorded, since the two log formats write texts, shown values, numbers and
flags differently.
-/
namespace PresenceGateway.Log

inductive Level where
  | error
  | warn
  | info
  | debug
  | trace
deriving DecidableEq

namespace Level

def text : Level → String
  | error => "ERROR"
  | warn => "WARN"
  | info => "INFO"
  | debug => "DEBUG"
  | trace => "TRACE"

def rank : Level → Nat
  | error => 1
  | warn => 2
  | info => 3
  | debug => 4
  | trace => 5

end Level

inductive Target where
  | app
  | telemetry
  | webhook
  | dispatch
  | tracker
  | nas
  | entry
deriving DecidableEq

def Target.text : Target → String
  | app => "cmx_presence_app"
  | telemetry => "cmx_presence_app::telemetry"
  | webhook => "cmx_presence_app::webhook"
  | dispatch => "cmx_presence_app::dispatch"
  | tracker => "cmx_presence_app::tracker"
  | nas => "cmx_presence_app::nas"
  | entry => "cmx_presence_core::entry"

inductive Field where
  | text (value : String)
  | shown (value : String)
  | number (value : Int)
  | flag (value : Bool)
deriving DecidableEq

def Field.plain : Field → String
  | text value => value
  | shown value => value
  | number value => toString value
  | flag value => if value then "true" else "false"

def Field.quoted : Field → String
  | text value => Text.quote value
  | field => field.plain

structure Event where
  level : Level
  target : Target
  message : String
  fields : List (String × Field)
deriving DecidableEq

namespace Event

def field? (event : Event) (name : String) : Option Field :=
  event.fields.lookup name

def line (event : Event) : String :=
  event.level.text ++ " " ++ event.target.text ++ ": " ++
    String.intercalate ", " (event.message ::
      event.fields.map fun field => field.1 ++ ": " ++ field.2.quoted)

end Event

end PresenceGateway.Log
