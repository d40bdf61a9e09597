import PresenceGateway.Http.Target
import PresenceGateway.Tap.Stage
/-!
Requests and responses.
-/
namespace PresenceGateway.Http

structure Request where
  method : String
  path : String
  query : Option String
  body : List UInt8

def Request.ofTarget? (method target : String) (body : List UInt8) : Option Request :=
  (readTarget? target).map fun (path, query) => { method, path, query, body }

inductive Body where
  | text (text : String)
  | events (filter : Tap.Filter)

structure Response where
  status : Nat
  contentType : Option String
  allow : Option String
  body : Body

namespace Response

def empty (status : Nat) : Response :=
  { status, contentType := none, allow := none, body := .text "" }

def ofText (status : Nat) (contentType text : String) : Response :=
  { status, contentType := some contentType, allow := none, body := .text text }

def plainText : String := "text/plain; charset=utf-8"

def eventStream : String := "text/event-stream"

def withoutBody (response : Response) : Response :=
  { response with body := .text "" }

end Response

end PresenceGateway.Http
