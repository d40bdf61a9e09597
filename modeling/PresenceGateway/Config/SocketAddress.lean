import PresenceGateway.Decimal.Numeral
import PresenceGateway.Url.Host
/-!
Addresses of sockets: an IPv4 or IPv6 address with a port.

An IPv4 address is four numbers without leading zeros. An IPv6 address stands in brackets, may end
in an IPv4 address and may name a scope by its number. It is written in its shortest form.
-/
namespace PresenceGateway

inductive SocketAddress where
  | ipv4 (address port : Nat)
  | ipv6 (pieces : List Nat) (scope port : Nat)
deriving DecidableEq

namespace SocketAddress

def takeNumber (bound : Nat) (cs : List Char) : Option (Nat × List Char) :=
  (Numeral.takeNatural cs).filter fun found => found.1 < bound

def readPort? : List Char → Option Nat
  | ':' :: rest =>
    match takeNumber 0x10000 rest with
    | some (port, []) => some port
    | _ => none
  | _ => none

/-! ### IPv6 addresses -/

def takePiece (cs : List Char) : Option (Nat × List Char) :=
  match Host.takeHex 5 0 0 cs with
  | (0, _, _) => none
  | (5, _, _) => none
  | (_, value, rest) => some (value, rest)

/-- The text after the colon that divides two pieces. The first piece has none before it. -/
def afterColon (isFirst : Bool) : List Char → Option (List Char)
  | ':' :: rest => if isFirst then some (':' :: rest) else some rest
  | cs => if isFirst then some cs else none

/-- Reads at most so many pieces, the last two of which may be written as an IPv4 address, which
ends the pieces. The flag tells whether it did. -/
def takePieces : Nat → Bool → List Char → List Nat × Bool × List Char
  | 0, _, cs => ([], false, cs)
  | room + 1, isFirst, cs =>
    match afterColon isFirst cs with
    | none => ([], false, cs)
    | some inner =>
      match if room = 0 then none else Host.takeIpv4 inner with
      | some (pieces, rest) => (pieces, true, rest)
      | none =>
        match takePiece inner with
        | none => ([], false, cs)
        | some (piece, rest) =>
          let (later, ended, rest) := takePieces room false rest
          (piece :: later, ended, rest)

/-- Reads an IPv6 address. A double colon stands for at least one zero. -/
def takeIpv6 (cs : List Char) : Option (List Nat × List Char) :=
  match takePieces 8 true cs with
  | (head, ended, rest) =>
    if head.length = 8 then some (head, rest)
    else if ended then none
    else
      match rest with
      | ':' :: ':' :: after =>
        let (tail, _, rest) := takePieces (7 - head.length) true after
        some (head ++ List.replicate (8 - head.length - tail.length) 0 ++ tail, rest)
      | _ => none

def takeScope : List Char → Nat × List Char
  | '%' :: rest => (takeNumber 0x100000000 rest).getD (0, '%' :: rest)
  | cs => (0, cs)

/-! ### Addresses -/

def parse? (text : String) : Option SocketAddress :=
  match text.toList with
  | '[' :: inner => do
    let (pieces, rest) ← takeIpv6 inner
    match takeScope rest with
    | (scope, ']' :: rest) => (readPort? rest).map (ipv6 pieces scope)
    | _ => none
  | cs => do
    let (pieces, rest) ← Host.takeIpv4 cs
    let address := pieces.foldl (fun value piece => value * 0x10000 + piece) 0
    (readPort? rest).map (ipv4 address)

def ipv6Text : List Nat → String
  | [0, 0, 0, 0, 0, 0xFFFF, high, low] => "::ffff:" ++ Host.ipv4Text (high * 0x10000 + low)
  | pieces => Host.ipv6Text pieces

def text : SocketAddress → String
  | ipv4 address port => Host.ipv4Text address ++ ":" ++ toString port
  | ipv6 pieces scope port =>
    let scopeText := if scope = 0 then "" else "%" ++ toString scope
    "[" ++ ipv6Text pieces ++ scopeText ++ "]:" ++ toString port

end SocketAddress

end PresenceGateway
