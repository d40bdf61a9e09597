import PresenceGateway.Dsm.Envelope
import PresenceGateway.Url.Parser
import PresenceGateway.Nas.Setup
import PresenceGateway.Problem
/-!
Sessions with a DSM station.

A client knows where the station is and how to log in. Its session holds the interfaces that the
last discovery found and the id that the last login gave. Setting up discovers, then logs in; every
other call looks up its interface, and carries the id when there is one. Requests go to the outside
world one at a time, and the world answers each with a response or not at all.
-/
namespace PresenceGateway.Dsm

open Json (Value)
open Nas (NasError Domain)

inductive Error where
  | url (cause : UrlError)
  | http (detail : String)
  | status (code : Nat) (body : String)
  | api (name : String) (code : Int)
  | auth (code : Int)
  | unknownApi (name : String)
deriving DecidableEq

def describeAuthError (code : Int) : String :=
  if code = 400 then "invalid credentials"
  else if code = 401 then "account disabled"
  else if code = 402 then "permission denied"
  else if code = 403 then "two-step verification required"
  else if code = 404 then "two-step verification failed"
  else "login error code " ++ toString code

namespace Error

def statusText (code : Nat) : String :=
  toString code ++ " " ++ (reasonPhrase? code).getD "<unknown status code>"

def message : Error → String
  | url cause => "failed to build url: " ++ cause.message
  | http detail => "http error: " ++ detail
  | status code body => "unexpected status " ++ statusText code ++ ": " ++ body
  | api name code => name ++ " returned error code " ++ toString code
  | auth code => "login refused: " ++ describeAuthError code
  | unknownApi name => "api " ++ name ++ " is not available on this NAS"

def toNasError : Error → NasError
  | auth code => .auth (describeAuthError code)
  | api name code => .api name code
  | other => .connection other.message

end Error

/-! ### The outside world -/

inductive Reply where
  | response (status : Nat) (body : List UInt8)
  | lost

structure Wire where
  replies : List Reply
  sent : List Url

namespace Wire

/-- Sends a request and takes the next reply. None is left when the connection is lost. -/
def exchange (wire : Wire) (url : Url) : Reply × Wire :=
  let sent := wire.sent ++ [url]
  match wire.replies with
  | [] => (.lost, { wire with sent })
  | reply :: rest => (reply, { replies := rest, sent })

end Wire

/-- The texts of failures on the way, which name the address but neither user nor password in it. -/
def lostText (url : Url) : String :=
  "error sending request for url (" ++ url.withoutUser.text ++ ")"

def notWebText (url : Url) : String :=
  "builder error for url (" ++ url.withoutUser.text ++ ")"

def undecodableText : String := "error decoding response body"

def isRequestChar (c : Char) : Bool :=
  c != '"' && c.toNat != 0x60 && c != '{' && c != '}'

def maxAddressLength : Nat := 65534

def canRequest (url : Url) : Bool :=
  (url.scheme == "http" || url.scheme == "https")
    && url.withoutUser.text.length ≤ maxAddressLength
    && url.host.any fun host => host.text.toList.all isRequestChar

def unansweredText (url : Url) : String :=
  if canRequest url then lostText url else notWebText url

def get {Data : Type} (read : Read.Reader Data) (url : Url) (wire : Wire) :
    Except Error (Envelope Data) × Wire :=
  if url.hasHost then
    match wire.exchange url with
    | (.lost, wire) => (.error (.http (unansweredText url)), wire)
    | (.response status body, wire) =>
      if 200 ≤ status ∧ status < 300 then
        match Read.body (Read.envelope read) body with
        | some envelope => (.ok envelope, wire)
        | none => (.error (.http undecodableText), wire)
      else (.error (.status status (Text.Utf8.decodeLossy body)), wire)
  else (.error (.http (notWebText url)), wire)

/-! ### Calls -/

def discoveryApi : String := "SYNO.API.Info"

def authApi : String := "SYNO.API.Auth"

def systemApi : String := "SYNO.DSM.Info"

def networkApi : String := "SYNO.DSM.Network"

def sessionName : String := "webui"

def unknownCode : Int := 100

/-- The data of an envelope. A success without data has the default. -/
def unwrap {Data : Type} (default : Data) (api : String) (envelope : Envelope Data) :
    Except Error Data :=
  if envelope.success then .ok (envelope.data.getD default)
  else .error (.api api (envelope.code.getD unknownCode))

structure Call where
  api : String
  descriptor : Descriptor
  method : String
  params : List (String × String)
  sid : Option String

namespace Call

def pairs (call : Call) : List (String × String) :=
  [("api", call.api), ("version", toString call.descriptor.maxVersion), ("method", call.method)]
    ++ call.params ++ (call.sid.map fun sid => ("_sid", sid)).toList

def url (base : Url) (call : Call) : Except UrlError Url := do
  let folder ← base.join "webapi/"
  let place ← folder.join call.descriptor.path
  return place.appendPairs call.pairs

end Call

structure Client where
  base : Url
  username : String
  password : String

structure Session where
  apis : List (String × Descriptor)
  sid : Option String

namespace Session

def fresh : Session := { apis := [], sid := none }

def descriptor? (session : Session) (api : String) : Option Descriptor :=
  session.apis.reverse.lookup api

def isLoggedIn (session : Session) : Bool :=
  session.sid.isSome

def names (session : Session) : List String :=
  (session.apis.map (·.1)).eraseDups.mergeSort fun first second => decide (first ≤ second)

end Session

structure State where
  session : Session
  wire : Wire

namespace Client

def ofEntry (data : Nas.EntryData) : Except Error Client :=
  let scheme := if data.useHttps then "https" else "http"
  match Url.parse (scheme ++ "://" ++ data.host ++ ":" ++ toString data.port ++ "/") with
  | .ok base => .ok { base, username := data.username, password := data.password }
  | .error cause => .error (.url cause)

def discoveryUrl (client : Client) : Except UrlError Url := do
  let place ← client.base.join "webapi/query.cgi"
  return place.appendPairs
    [("api", discoveryApi), ("version", "1"), ("method", "query"), ("query", "all")]

def discover (client : Client) (wire : Wire) :
    Except Error (List (String × Descriptor)) × Wire :=
  match client.discoveryUrl with
  | .error cause => (.error (.url cause), wire)
  | .ok url =>
    let (answer, wire) := get Read.descriptors url wire
    (answer.bind (unwrap [] discoveryApi), wire)

def request {Data : Type} (client : Client) (read : Read.Reader Data) (default : Data)
    (api method : String) (params : List (String × String)) (state : State) :
    Except Error Data × State :=
  match state.session.descriptor? api with
  | none => (.error (.unknownApi api), state)
  | some descriptor =>
    let call : Call := { api, descriptor, method, params, sid := state.session.sid }
    match call.url client.base with
    | .error cause => (.error (.url cause), state)
    | .ok url =>
      let (answer, wire) := get read url state.wire
      (answer.bind (unwrap default api), { state with wire })

def loginParams (client : Client) : List (String × String) :=
  [("account", client.username), ("passwd", client.password), ("session", sessionName),
   ("format", "sid")]

def loginResult : Except Error String → Except Error String
  | .ok sid => if sid.isEmpty then .error (.auth unknownCode) else .ok sid
  | .error (.api _ code) => .error (.auth code)
  | .error other => .error other

def login (client : Client) (state : State) : Except Error String × State :=
  let (answer, state) :=
    client.request Read.sessionId "" authApi "login" client.loginParams state
  (loginResult answer, state)

def inform {α : Type} (answer : Except Error α) : Except NasError α :=
  answer.mapError Error.toNasError

def setup (client : Client) (state : State) : Except NasError Unit × State :=
  let (found, wire) := client.discover state.wire
  let state := { state with wire }
  match found with
  | .error cause => (.error cause.toNasError, state)
  | .ok apis =>
    let state := { state with session := { state.session with apis } }
    let (answer, state) := client.login state
    match answer with
    | .error cause => (.error cause.toNasError, state)
    | .ok sid => (.ok (), { state with session := { state.session with sid := some sid } })

def networkMacs (client : Client) (state : State) : Except NasError (List String) × State :=
  let (answer, state) := client.request Read.addresses [] networkApi "list" [] state
  (inform answer, state)

def domainMethod : Domain → String × String
  | .central => (systemApi, "getinfo")
  | .cameras => (Nas.cameraApi, "List")
  | .switches => (Nas.homeModeApi, "GetInfo")

def fetch (client : Client) (domain : Domain) (state : State) : Except NasError Value × State :=
  let (api, method) := domainMethod domain
  let (answer, state) := client.request Read.value .null api method [] state
  (inform answer, state)

def setupSwitches (client : Client) (state : State) : Except NasError Unit × State :=
  let (answer, state) := client.request Read.value .null Nas.infoApi "GetInfo" [] state
  (inform (answer.map fun _ => ()), state)

/-- Closes the session. It is closed on this side whatever the station answers. -/
def unload (client : Client) (state : State) : Except NasError Unit × State :=
  if state.session.isLoggedIn then
    let (answer, state) :=
      client.request Read.value .null authApi "logout" [("session", sessionName)] state
    (inform (answer.map fun _ => ()),
      { state with session := { state.session with sid := none } })
  else (.ok (), state)

def api (client : Client) : Nas.Api Unit State :=
  { call := fun _ what state =>
      match what with
      | .setup => client.setup state
      | .networkMacs => client.networkMacs state
      | .fetch domain => client.fetch domain state
      | .setupSwitches => client.setupSwitches state
      | .unload => client.unload state
    available := fun _ state => state.session.names }

end Client

end PresenceGateway.Dsm
