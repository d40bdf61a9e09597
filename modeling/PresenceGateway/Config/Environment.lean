import PresenceGateway.Text.Blank
import PresenceGateway.Text.Utf8
/-!
The environment: the variables that the program is started with.

A variable whose value is not well-formed UTF-8 counts as not set. A setting that may be left out
counts as not set, too, when its value holds blanks only.
-/
namespace PresenceGateway

/-- The variables with their values. Of two variables of one name the first counts. -/
structure Environment where
  values : List (String × String)

namespace Environment

/-- The environment of variables given in bytes. Those that are not texts are left out. -/
def ofBytes (given : List (String × List UInt8)) : Environment :=
  { values := given.filterMap fun entry =>
      (Text.Utf8.decode? entry.2).map fun value => (entry.1, value) }

def value? (environment : Environment) (name : String) : Option String :=
  environment.values.lookup name

def setting? (environment : Environment) (name : String) : Option String :=
  (environment.value? name).filter fun value => !Text.isBlankText value

def define (environment : Environment) (name value : String) : Environment :=
  match environment.value? name with
  | some _ => environment
  | none => { values := (name, value) :: environment.values }

end Environment

end PresenceGateway
