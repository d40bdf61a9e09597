import PresenceGateway.Text.Quoted
import PresenceGateway.Url.Percent
/-!
Addresses of databases.

An address has a name and may have parameters. The name may itself be a file address, which begins with
`file:` and may have parameters too, and those go before the ones of the address. What is said in the
end is how a database is to be opened: under which path, with which rights, in which way files are
reached, and whether it is in memory and shared between connections.
-/
namespace PresenceGateway.Tracker

inductive AddressError where
  | badName (valid : Nat) (unreadable : Option Nat)
  | nulInName
  | badValue (parameter value : String)
  | unknownParameter (name : String)
  | badHost (host : String)
  | badMode (kind value : String)
  | forbiddenMode (kind value : String)
  | unknownAccess (name : String)
deriving DecidableEq

/-! ### Addresses -/

/-- An address as it is written. Without a name the database is one in memory. -/
structure Address where
  name : Option (List UInt8)
  readOnly : Bool
  create : Bool
  inMemory : Bool
  shared : Bool
  immutable : Bool
  access : Option String

namespace Address

/-- A text without the copies of another one at its front, given a bound of their number. -/
def dropCopies (front : List Char) : Nat → List Char → List Char
  | 0, cs => cs
  | bound + 1, cs =>
    if front.isPrefixOf cs then dropCopies front bound (cs.drop front.length) else cs

def withoutScheme (text : String) : List Char :=
  let cs := text.toList
  let cs := dropCopies "sqlite://".toList cs.length cs
  dropCopies "sqlite:".toList cs.length cs

/-- The address of a name without parameters. A database in memory is shared. -/
def ofName (name : List Char) : Except AddressError Address :=
  let memory := String.ofList name = ":memory:"
  let decoded := Url.decodeBytes (Text.Utf8.encode (String.ofList name))
  match if memory then none else Text.Utf8.fault? decoded with
  | some (valid, unreadable) => .error (.badName valid unreadable)
  | none => .ok {
      name := if memory then none else some decoded
      readOnly := false, create := false, inMemory := memory, shared := memory, immutable := false
      access := none }

def withParameter (address : Address) (name value : String) : Except AddressError Address :=
  if name = "mode" then
    if value = "ro" then .ok { address with readOnly := true }
    else if value = "rw" then .ok address
    else if value = "rwc" then .ok { address with create := true }
    else if value = "memory" then .ok { address with inMemory := true, shared := true }
    else .error (.badValue name value)
  else if name = "cache" then
    if value = "private" then .ok { address with shared := false }
    else if value = "shared" then .ok { address with shared := true }
    else .error (.badValue name value)
  else if name = "immutable" then
    if value = "true" ∨ value = "1" then .ok { address with immutable := true }
    else if value = "false" ∨ value = "0" then .ok { address with immutable := false }
    else .error (.badValue name value)
  else if name = "vfs" then .ok { address with access := some value }
  else .error (.unknownParameter name)

def parse (text : String) : Except AddressError Address := do
  let cs := withoutScheme text
  let address ← ofName (cs.takeWhile (· ≠ '?'))
  let parameters := Form.decode (String.ofList ((cs.dropWhile (· ≠ '?')).drop 1))
  parameters.foldlM (fun address parameter => address.withParameter parameter.1 parameter.2) address

end Address

/-! ### Ways to open a database -/

inductive Rights where
  | unnamed
  | read
  | write
  | create
deriving DecidableEq

def Rights.rank : Rights → Nat
  | unnamed => 0
  | read => 1
  | write => 2
  | create => 6

structure Opening where
  path : List UInt8
  located : Bool
  rights : Rights
  inMemory : Bool
  shared : Bool
  access : String

namespace Opening

/-- The part of a file address between two marks, without its percent signs. It ends before an encoded
NUL. -/
def decodePart (bytes : List UInt8) : List UInt8 :=
  (Url.decodeBytes bytes).takeWhile (· ≠ 0)

/-- What follows the host of a file address. A host is none at all or this one. -/
def withoutHost (bytes : List UInt8) : Except AddressError (List UInt8) :=
  match bytes with
  | 0x2F :: 0x2F :: rest =>
    let host := rest.takeWhile (· ≠ 0x2F)
    let name := Text.Utf8.decodeLossy host
    if name = "" ∨ name = "localhost" then .ok (rest.dropWhile (· ≠ 0x2F)) else .error (.badHost name)
  | _ => .ok bytes

def parameters (query : List UInt8) : List (String × String) :=
  let split := (Form.splitBytes 0x26 query).map fun part =>
    (Text.Utf8.decodeLossy (decodePart (part.takeWhile (· ≠ 0x3D))),
      Text.Utf8.decodeLossy (decodePart ((part.dropWhile (· ≠ 0x3D)).drop 1)))
  split.filter fun parameter => parameter.1 ≠ ""

/-- An opening with other rights, of which no more may be asked than there are. A database in memory
may have any. -/
def withRights (opening : Opening) (rights : Rights) (value : String) : Except AddressError Opening :=
  if opening.inMemory ∨ rights.rank ≤ opening.rights.rank then
    .ok { opening with rights, inMemory := false }
  else .error (.forbiddenMode "access" value)

def withParameter (opening : Opening) (name value : String) : Except AddressError Opening :=
  if name = "vfs" then .ok { opening with access := value }
  else if name = "cache" then
    if value = "shared" then .ok { opening with shared := true }
    else if value = "private" then .ok { opening with shared := false }
    else .error (.badMode "cache" value)
  else if name = "mode" then
    if value = "ro" then opening.withRights .read value
    else if value = "rw" then opening.withRights .write value
    else if value = "rwc" then opening.withRights .create value
    else if value = "memory" then .ok { opening with rights := .unnamed, inMemory := true }
    else .error (.badMode "access" value)
  else .ok opening

/-- An opening under the path of a file address and with its parameters. A fragment does not count. -/
def locate (opening : Opening) (bytes : List UInt8) : Except AddressError Opening := do
  let rest ← withoutHost bytes
  let rest := rest.takeWhile (· ≠ 0x23)
  let path := decodePart (rest.takeWhile (· ≠ 0x3F))
  (parameters ((rest.dropWhile (· ≠ 0x3F)).drop 1)).foldlM
    (fun opening parameter => opening.withParameter parameter.1 parameter.2)
    { opening with path, located := true }

def accesses : List String :=
  ["unix", "unix-none", "unix-dotfile", "unix-excl", "memdb"]

def plain (address : Address) : Opening := {
  path := [], located := false
  rights := if address.readOnly then .read else if address.create then .create else .write
  inMemory := address.inMemory
  shared := address.shared
  access := "unix" }

/-- The opening of an address. With a way to reach files or with an immutable file, its name is a path
in any case. In a parameter that is handed on, a plus sign stands for a space. -/
def ofAddress (address : Address) : Except AddressError Opening := do
  let opening := plain address
  let opening ← match address.name with
    | none => .ok { opening with path := Text.Utf8.encode "memory", located := true }
    | some name =>
      if address.immutable ∨ address.access.isSome then
        .ok { opening with path := name.takeWhile (· ≠ 0), located := true }
      else if 0 ∈ name then .error .nulInName
      else if (Text.Utf8.encode "file:").isPrefixOf name then opening.locate (name.drop 5)
      else .ok { opening with path := name }
  let access := match address.access with
    | some value =>
      String.ofList ((value.toList.takeWhile (·.toNat ≠ 0)).map fun c => if c = ' ' then '+' else c)
    | none => opening.access
  if access ∈ accesses then .ok { opening with access } else .error (.unknownAccess access)

end Opening

end PresenceGateway.Tracker
