import Mathlib
import PresenceGateway.Proofs.Dsm.Requests
import PresenceGateway.Proofs.Url.Sites
/-!
Where a client calls. What it asks for itself is below its base. The path of an interface comes from
the station, and leads away from the site of the base only when it names another one.
-/
namespace PresenceGateway.Dsm.Client

open Url (namesSite)

/-- The answer to a discovery that lists the login interface alone, at some path. -/
def loginTable (path : String) : List UInt8 :=
  Text.Utf8.encode (Json.Value.text (.object [
    ("data", .object [(authApi, .object [("maxVersion", .ofNat 6), ("path", .string path)])]),
    ("success", .bool true)]))

def loginAt (path : String) : List (String × Descriptor) :=
  [(authApi, ⟨path, 6⟩)]

theorem read_loginTable_of_plain_path :
    Read.body (Read.envelope Read.descriptors) (loginTable "auth.cgi") =
      some { success := true, data := some (loginAt "auth.cgi"), code := none } := by
  cbv

def station (username password : String) : Client :=
  { base := {
      scheme := "http", username := "", password := ""
      host := some (.ipv6 [0xFD00, 0, 0, 0, 0, 0, 0, 1]), port := none
      path := .segments [""], query := none, fragment := none }
    username, password }

theorem station_based (username password : String) :
    Url.parse "http://[fd00::1]/" = .ok (station username password).base := by
  cbv

theorem station_web (username password : String) :
    (station username password).base.scheme ≠ "file" := by
  change "http" ≠ "file"
  decide

theorem folder_isRelative : Url.isRelative "webapi/" = true := by
  decide

theorem discovery_isRelative : Url.isRelative "webapi/query.cgi" = true := by
  decide

/-! ### Below a base -/

section Below

variable {client : Client} {segments : List String}
  (other : client.base.scheme ≠ "file") (below : client.base.path = .segments segments)

include other below

theorem discoveryUrl_of_below :
    ∃ url, client.discoveryUrl = .ok url ∧ url.SameSite client.base := by
  obtain ⟨place, joined, same, _⟩ := Url.join_relative other below discovery_isRelative
  rw [discoveryUrl, joined]
  exact ⟨_, rfl, same.scheme, same.host, same.port⟩

theorem place_of_below {descriptor : Descriptor}
    (relative : Url.isRelative descriptor.path = true) :
    ∃ place, client.place descriptor = .ok place ∧ place.SameSite client.base := by
  obtain ⟨folder, joined, same, own, inside⟩ := Url.join_relative other below folder_isRelative
  obtain ⟨place, joinedToo, sameToo, _⟩ := Url.join_relative (same.scheme ▸ other) inside relative
  rw [Client.place, joined]
  exact ⟨place, joinedToo, sameToo.trans same⟩

/-- A discovery whose reply lists some interfaces finds them. -/
theorem discover_of_reply {wire : Wire} {body : List UInt8} {rest : List Reply}
    {apis : List (String × Descriptor)} (host : client.base.hasHost = true)
    (replies : wire.replies = .response 200 body :: rest)
    (listed : Read.body (Read.envelope Read.descriptors) body =
      some { success := true, data := some apis, code := none }) :
    ∃ later, client.discover wire = (.ok apis, later) ∧ later.replies = rest := by
  obtain ⟨url, target, same⟩ := discoveryUrl_of_below other below
  have reached : url.hasHost = true := same.hasHost.trans host
  refine ⟨(get Read.descriptors url wire).2, ?_, ?_⟩
  · rw [discover, target]
    dsimp only
    rw [get_answered Read.descriptors reached replies, told, if_pos ⟨by decide, by decide⟩, listed]
    rfl
  · rw [get_replies, if_pos reached, replies]
    rfl

end Below

/-! ### Anywhere -/

section Anywhere

variable {client : Client} {url : Url} (portless : client.base.FileHasNoPort)

include portless

theorem discoveryUrl_sameSite (asked : client.discoveryUrl = .ok url)
    (host : url.hasHost = true) : url.SameSite client.base := by
  unfold discoveryUrl at asked
  cases joined : client.base.join "webapi/query.cgi" with
  | error cause =>
      rw [joined] at asked
      cases asked
  | ok place =>
      rw [joined] at asked
      cases asked
      have unnamed := Url.namesSite_of_isRelative client.base.scheme discovery_isRelative
      have same := Url.join_sameSite portless unnamed joined host
      exact ⟨same.scheme, same.host, same.port⟩

/-- The path of an interface leads to another site only when it names one. -/
theorem place_sameSite {descriptor : Descriptor} {place : Url}
    (unnamed : namesSite client.base.scheme descriptor.path = false)
    (reached : client.place descriptor = .ok place) (host : place.hasHost = true) :
    place.SameSite client.base := by
  unfold Client.place at reached
  cases joined : client.base.join "webapi/" with
  | error cause =>
      rw [joined] at reached
      cases reached
  | ok folder =>
      rw [joined] at reached
      have scheme := Url.join_scheme (Url.takeScheme?_of_isRelative folder_isRelative) joined
      have same := Url.join_sameSite (Url.join_fileHasNoPort portless joined)
        (scheme.symm ▸ unnamed) reached host
      have folderHost : folder.hasHost = true := same.hasHost.symm.trans host
      exact same.trans (Url.join_sameSite portless
        (Url.namesSite_of_isRelative _ folder_isRelative) joined folderHost)

end Anywhere

end PresenceGateway.Dsm.Client
