/-!
What can go wrong between the gateway and a NAS, and what it means for setting up an entry.
-/
namespace PresenceGateway.Nas

inductive NasError where
  | auth (details : String)
  | connection (details : String)
  | api (name : String) (code : Int)
deriving DecidableEq

namespace NasError

def unknown : String := "Unknown"

def message : NasError → String
  | auth details => "authentication failed: " ++ details
  | connection details => "connection failed: " ++ details
  | api name code => name ++ " returned error code " ++ toString code

def kind : NasError → String
  | auth _ => "Auth"
  | connection _ => "Connection"
  | api .. => "Api"

end NasError

/-- Why an entry could not be set up: the credentials are refused and trying again is of no use, or
the NAS is not ready yet. -/
inductive SetupError where
  | authFailed (reason : String)
  | notReady (reason : String)
deriving DecidableEq

namespace SetupError

def ofNasError : NasError → SetupError
  | .auth details => authFailed details
  | .connection details => notReady details
  | .api name code => notReady (NasError.api name code).message

def message : SetupError → String
  | authFailed reason => "reason: " ++ reason
  | notReady reason => "entry not ready: " ++ reason

def kind : SetupError → String
  | authFailed _ => "AuthFailed"
  | notReady _ => "NotReady"

end SetupError

end PresenceGateway.Nas
