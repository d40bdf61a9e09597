import PresenceGateway.Nas.Program
/-!
A NAS that answers from a script.

Each call has a list of outcomes. A call takes the next outcome of its list, the last outcome stays
for every later call, and a call without outcomes succeeds.
-/
namespace PresenceGateway.Nas

open Json (Value)

inductive Outcome where
  | ok (value : Value)
  | auth (details : Option String)
  | connection (details : Option String)
  | api (name : String) (code : Int)

structure Script where
  offered : List String
  outcomes : Call → List Outcome

namespace Script

def texts : Value → List String
  | .array items => items.filterMap fun
    | .string text => some text
    | _ => none
  | _ => []

def reply : (what : Call) → Value → what.Reply
  | .setup, _ => ()
  | .networkMacs, value => texts value
  | .fetch _, value => value
  | .setupSwitches, _ => ()
  | .unload, _ => ()

def defaultOutcome (what : Call) : Outcome :=
  .ok (.object [("call", .string what.text)])

def answer (what : Call) : Outcome → Except NasError what.Reply
  | .ok value => .ok (reply what value)
  | .auth details => .error (.auth (details.getD NasError.unknown))
  | .connection details => .error (.connection (details.getD NasError.unknown))
  | .api name code => .error (.api name code)

def next (script : Script) (what : Call) : Outcome :=
  (script.outcomes what).headD (defaultOutcome what)

/-- The script after a call. The last outcome of a list stays. -/
def after (script : Script) (what : Call) : Script :=
  { script with
    outcomes := fun other =>
      if other = what then
        match script.outcomes what with
        | _ :: later :: rest => later :: rest
        | short => short
      else script.outcomes other }

def api : Api Unit Script :=
  { call := fun _ what script => (answer what (script.next what), script.after what)
    available := fun _ script => script.offered }

def apis : Api Nat (List Script) :=
  { call := fun place what scripts =>
      match scripts[place]? with
      | some script =>
        (answer what (script.next what), scripts.set place (script.after what))
      | none => (answer what (defaultOutcome what), scripts)
    available := fun place scripts =>
      match scripts[place]? with
      | some script => script.offered
      | none => [] }

end Script

end PresenceGateway.Nas
