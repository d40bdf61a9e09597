import PresenceGateway.Decimal.Numeral
import PresenceGateway.Text.Blank
import PresenceGateway.Url.Domain
import PresenceGateway.Url.Percent
/-!
Hosts of addresses: domain names, IPv4 and IPv6 addresses.

A domain name is percent-decoded, brought to its ASCII form and, when its last label is a number,
read as an IPv4 address in any of the old notations. An IPv6 address stands in brackets and is
written back in its shortest form.
-/
namespace PresenceGateway

inductive UrlError where
  | emptyHost
  | invalidDomain
  | invalidPort
  | invalidIpv4
  | invalidIpv6
  | invalidDomainCharacter
  | relativeWithoutBase
  | relativeToOther
deriving DecidableEq

namespace UrlError

def message : UrlError → String
  | emptyHost => "empty host"
  | invalidDomain => "invalid international domain name"
  | invalidPort => "invalid port number"
  | invalidIpv4 => "invalid IPv4 address"
  | invalidIpv6 => "invalid IPv6 address"
  | invalidDomainCharacter => "invalid domain character"
  | relativeWithoutBase => "relative URL without a base"
  | relativeToOther => "relative URL with a cannot-be-a-base base"

def label : UrlError → String
  | emptyHost => "EmptyHost"
  | invalidDomain => "IdnaError"
  | invalidPort => "InvalidPort"
  | invalidIpv4 => "InvalidIpv4Address"
  | invalidIpv6 => "InvalidIpv6Address"
  | invalidDomainCharacter => "InvalidDomainCharacter"
  | relativeWithoutBase => "RelativeUrlWithoutBase"
  | relativeToOther => "RelativeUrlWithCannotBeABaseBase"

end UrlError

/-- The host of an address. A `plain` host belongs to a scheme whose hosts have no structure. -/
inductive Host where
  | domain (name : String)
  | ipv4 (address : Nat)
  | ipv6 (pieces : List Nat)
  | plain (text : String)
deriving DecidableEq

namespace Host

/-! ### IPv4 -/

/-- Reads one number of an IPv4 address: hexadecimal after `0x`, octal after another zero. A `none`
inside is a number of which nothing but the form is right. -/
def ipv4Number? (text : List Char) : Option Nat :=
  let value (base : Nat) (digits : List Char) : Option Nat :=
    digits.foldl (fun value? c => do
      let value ← value?
      let digit ← Text.hexDigit? c
      if digit < base then some (value * base + digit) else none) (some 0)
  match text with
  | [] => none
  | '0' :: 'x' :: rest => value 16 rest
  | '0' :: 'X' :: rest => value 16 rest
  | '0' :: c :: rest => value 8 (c :: rest)
  | digits => value 10 digits

/-- Whether a domain has to be an IPv4 address because its last label is a number. A final dot does
not count. -/
def endsInNumber (name : List Char) : Bool :=
  let labels := (Text.splitChars '.' name).reverse
  let last? := match labels with
    | [] :: before :: _ => some before
    | [[]] => none
    | [] => none
    | last :: _ => some last
  match last? with
  | none => false
  | some last =>
    (!last.isEmpty && last.all Char.isDigit) || (ipv4Number? last).isSome

/-- Reads an IPv4 address of one to four numbers. The last one fills the bytes that are left. -/
def readIpv4? (name : List Char) : Option Nat :=
  let parts := match (Text.splitChars '.' name).reverse with
    | [] :: before => before
    | parts => parts
  match parts.mapM ipv4Number? with
  | none => none
  | some [] => none
  | some (last :: before) =>
    let count := before.length
    if 3 < count then none
    else if Power.two (8 * (4 - count)) ≤ last then none
    else if before.any (255 < ·) then none
    else
      let front := before.reverse.foldl (fun value part => value * 256 + part) 0
      some (front * Power.two (8 * (4 - count)) + last)

def ipv4Text (address : Nat) : String :=
  String.intercalate "." ([0x1000000, 0x10000, 0x100, 1].map fun weight =>
    toString (address / weight % 256))

/-! ### IPv6 -/

def takeHex : Nat → Nat → Nat → List Char → Nat × Nat × List Char
  | 0, count, value, cs => (count, value, cs)
  | _ + 1, count, value, [] => (count, value, [])
  | limit + 1, count, value, c :: rest =>
    match Text.hexDigit? c with
    | some digit => takeHex limit (count + 1) (value * 16 + digit) rest
    | none => (count, value, c :: rest)

/-- Reads the decimal number of an embedded IPv4 address: at most 255, without leading zero. -/
def takeOctet (cs : List Char) : Option (Nat × List Char) :=
  match cs with
  | '0' :: c :: _ => if Numeral.isDigit c then none else Numeral.takeNatural cs
  | _ => (Numeral.takeNatural cs).filter fun found => found.1 ≤ 255

def takeIpv4 (cs : List Char) : Option (List Nat × List Char) :=
  match takeOctet cs with
  | some (a, '.' :: afterA) =>
    match takeOctet afterA with
    | some (b, '.' :: afterB) =>
      match takeOctet afterB with
      | some (c, '.' :: afterC) =>
        (takeOctet afterC).map fun last => ([a * 256 + b, c * 256 + last.1], last.2)
      | _ => none
    | _ => none
  | _ => none

def embeddedIpv4? (cs : List Char) : Option (List Nat) :=
  match takeIpv4 cs with
  | some (pieces, []) => some pieces
  | _ => none

/-- How many pieces are taken: those that are read, and at least one for the double colon. -/
def taken (done : List Nat) (gap : Option Nat) : Nat :=
  done.length + (if gap.isSome then 1 else 0)

/-- Reads the pieces of an IPv6 address. `done` holds the pieces so far, last first, and `gap` how
many of them came before the double colon. The bound is the number of characters. -/
def readPieces : Nat → List Nat → Option Nat → List Char → Option (List Nat × Option Nat)
  | _, done, gap, [] => some (done, gap)
  | 0, _, _, _ :: _ => none
  | bound + 1, done, gap, cs =>
    if 8 ≤ taken done gap then none
    else match cs with
    | ':' :: rest =>
      match gap with
      | some _ => none
      | none => readPieces bound done (some done.length) rest
    | _ =>
      let (count, value, rest) := takeHex 4 0 0 cs
      match rest with
      | '.' :: _ =>
        if count = 0 ∨ 6 < taken done gap then none
        else (embeddedIpv4? cs).map fun pieces => (pieces.reverse ++ done, gap)
      | ':' :: [] => none
      | ':' :: later => if count = 0 then none else readPieces bound (value :: done) gap later
      | [] => if count = 0 then none else some (value :: done, gap)
      | _ => none

def readIpv6? (cs : List Char) : Option (List Nat) :=
  let found := match cs with
    | ':' :: ':' :: rest => readPieces cs.length [] (some 0) rest
    | ':' :: _ => none
    | _ => readPieces cs.length [] none cs
  match found with
  | some (done, none) => if done.length = 8 then some done.reverse else none
  | some (done, some before) =>
    let pieces := done.reverse
    some (pieces.take before ++ List.replicate (8 - pieces.length) 0 ++ pieces.drop before)
  | none => none

def zeroRun (pieces : List Nat) : Nat :=
  (pieces.takeWhile (· == 0)).length

def longestZeros : Nat → List Nat → Nat × Nat
  | _, [] => (0, 0)
  | place, piece :: rest =>
    let here := zeroRun (piece :: rest)
    let later := longestZeros (place + 1) rest
    if later.2 ≤ here then (place, here) else later

/-- The shortest text of an IPv6 address: the first longest run of two and more zeros is left
out. -/
def ipv6Text (pieces : List Nat) : String :=
  let words := fun (part : List Nat) => String.intercalate ":" (part.map Text.hexadecimal)
  let (place, length) := longestZeros 0 pieces
  if length < 2 then words pieces
  else words (pieces.take place) ++ "::" ++ words (pieces.drop (place + length))

/-! ### Hosts -/

def read (text : List Char) : Except UrlError Host :=
  match text with
  | '[' :: inner =>
    match inner.reverse with
    | ']' :: address =>
      match readIpv6? address.reverse with
      | some pieces => .ok (.ipv6 pieces)
      | none => .error .invalidIpv6
    | _ => .error .invalidIpv6
  | _ =>
    let bytes := Url.decodeBytes (Text.Utf8.encode (String.ofList text))
    match (Text.Utf8.decode? bytes).bind fun name => Url.asciiName? name.toList with
    | none => .error .invalidDomain
    | some [] => .error .emptyHost
    | some name =>
      if endsInNumber name then
        match readIpv4? name with
        | some address => .ok (.ipv4 address)
        | none => .error .invalidIpv4
      else .ok (.domain (String.ofList name))

/-- The characters that a host without structure cannot hold. -/
def isForbiddenPlain (c : Char) : Bool :=
  c.toNat == 0 || c == '\t' || c == '\n' || c == '\r' || c == ' ' || c == '#' || c == '/'
    || c == ':' || c == '<' || c == '>' || c == '?' || c == '@' || c == '[' || c == '\\'
    || c == ']' || c == '^' || c == '|'

def readPlain (text : List Char) : Except UrlError Host :=
  match text with
  | '[' :: inner =>
    match inner.reverse with
    | ']' :: address =>
      match readIpv6? address.reverse with
      | some pieces => .ok (.ipv6 pieces)
      | none => .error .invalidIpv6
    | _ => .error .invalidIpv6
  | _ =>
    if text.any isForbiddenPlain then .error .invalidDomainCharacter
    else .ok (.plain (String.ofList (text.flatMap (Url.encodeChar fun _ => false))))

def text : Host → String
  | domain name => name
  | ipv4 address => ipv4Text address
  | ipv6 pieces => "[" ++ ipv6Text pieces ++ "]"
  | plain text => text

end Host

end PresenceGateway
