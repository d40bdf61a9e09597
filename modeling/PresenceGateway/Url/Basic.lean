import PresenceGateway.Url.Host
/-!
Web addresses as values, their text, and the pairs of their query.
-/
namespace PresenceGateway

/-- The path of an address: segments after slashes, or a text that is no hierarchy. -/
inductive Path where
  | segments (parts : List String)
  | verbatim (text : String)
deriving DecidableEq

def Path.text : Path → String
  | segments parts => String.join (parts.map fun part => "/" ++ part)
  | verbatim text => text

/-- An address, with everything in its encoded form. A port that is the usual one of the scheme is
left out. An address with slashes and nothing between them and its path has an empty host. -/
structure Url where
  scheme : String
  username : String
  password : String
  host : Option Host
  port : Option Nat
  path : Path
  query : Option String
  fragment : Option String
deriving DecidableEq

namespace Url

def usualPort? (scheme : String) : Option Nat :=
  if scheme = "http" ∨ scheme = "ws" then some 80
  else if scheme = "https" ∨ scheme = "wss" then some 443
  else if scheme = "ftp" then some 21
  else none

def isWeb (scheme : String) : Bool :=
  scheme == "http" || scheme == "https" || scheme == "ws" || scheme == "wss" || scheme == "ftp"

/-- The schemes in which a backslash counts as a slash: those of the web, and files. -/
def isSpecial (scheme : String) : Bool :=
  isWeb scheme || scheme == "file"

def effectivePort? (url : Url) : Option Nat :=
  url.port.or (usualPort? url.scheme)

def hasHost (url : Url) : Bool :=
  url.host.any fun host => host != .plain ""

def userText (url : Url) : String :=
  if url.username.isEmpty && url.password.isEmpty then ""
  else if url.password.isEmpty then url.username ++ "@"
  else url.username ++ ":" ++ url.password ++ "@"

def authorityText (url : Url) : String :=
  match url.host with
  | none => ""
  | some host =>
    "//" ++ url.userText ++ host.text ++
      (match url.port with
       | none => ""
       | some port => ":" ++ toString port)

def target (url : Url) : String :=
  url.path.text ++
    (match url.query with
     | none => ""
     | some query => "?" ++ query)

def pathGuard (url : Url) : String :=
  match url.host, url.path with
  | none, .segments ("" :: _ :: _) => "/."
  | _, _ => ""

def text (url : Url) : String :=
  url.scheme ++ ":" ++ url.authorityText ++ url.pathGuard ++ url.target ++
    (match url.fragment with
     | none => ""
     | some fragment => "#" ++ fragment)

def withoutUser (url : Url) : Url :=
  { url with username := "", password := "" }

def withoutFragment (url : Url) : Url :=
  { url with fragment := none }

def appendPairs (url : Url) (pairs : List (String × String)) : Url :=
  let encoded := String.ofList (Form.encode pairs)
  let query := match url.query with
    | none => encoded
    | some query => if query.isEmpty then encoded else query ++ "&" ++ encoded
  { url with query := some query }

def pairs (url : Url) : List (String × String) :=
  match url.query with
  | none => []
  | some query => Form.decode query

end Url

end PresenceGateway
