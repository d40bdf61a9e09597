import PresenceGateway.Text.Utf8
/-!
Percent encoding, and the pairs of a form-encoded query.

`Form.encode` and `Form.decode` are the two directions of `application/x-www-form-urlencoded`: a
text is its UTF-8 bytes, of which letters, digits and four marks stand for themselves, a space is a
plus sign, and every other byte is a percent sign with two hexadecimal digits.
-/
namespace PresenceGateway

namespace Url

/-! ### Percent encoding -/

def hexChar (n : Nat) : Char :=
  if n < 10 then Char.ofNat (0x30 + n) else Char.ofNat (0x37 + n)

def hexValue? (b : UInt8) : Option Nat :=
  if 0x30 ≤ b ∧ b ≤ 0x39 then some (b.toNat - 0x30)
  else if 0x61 ≤ b ∧ b ≤ 0x66 then some (b.toNat - 0x57)
  else if 0x41 ≤ b ∧ b ≤ 0x46 then some (b.toNat - 0x37)
  else none

def encodeByte (b : UInt8) : List Char :=
  ['%', hexChar (b.toNat / 16), hexChar (b.toNat % 16)]

def encodeChar (set : Char → Bool) (c : Char) : List Char :=
  if c.toNat < 0x20 ∨ 0x7F ≤ c.toNat ∨ set c then
    (String.utf8EncodeChar c).flatMap encodeByte
  else [c]

def fragmentSet (c : Char) : Bool :=
  c == ' ' || c == '"' || c == '<' || c == '>' || c.toNat == 0x60

def pathSet (c : Char) : Bool :=
  fragmentSet c || c == '#' || c == '?' || c.toNat == 0x7B || c.toNat == 0x7D

def userSet (c : Char) : Bool :=
  pathSet c || c == '/' || c == ':' || c == ';' || c == '=' || c == '@' || c == '['
    || c == '\\' || c == ']' || c == '^' || c == '|'

def querySet (c : Char) : Bool :=
  c == ' ' || c == '"' || c == '#' || c == '<' || c == '>'

def specialQuerySet (c : Char) : Bool :=
  querySet c || c.toNat == 0x27

/-- The bytes of a percent-encoded byte sequence. A percent sign without two digits stands for
itself. -/
def decodeBytes : List UInt8 → List UInt8
  | [] => []
  | 0x25 :: a :: b :: rest =>
    match hexValue? a, hexValue? b with
    | some high, some low => UInt8.ofNat (high * 16 + low) :: decodeBytes rest
    | _, _ => 0x25 :: decodeBytes (a :: b :: rest)
  | b :: rest => b :: decodeBytes rest

end Url

/-! ### Form-encoded pairs -/

namespace Form

open Url

def isPlain (b : UInt8) : Bool :=
  (0x30 ≤ b && b ≤ 0x39) || (0x41 ≤ b && b ≤ 0x5A) || (0x61 ≤ b && b ≤ 0x7A)
    || b == 0x2A || b == 0x2D || b == 0x2E || b == 0x5F

def encodeByte (b : UInt8) : List Char :=
  if b = 0x20 then ['+']
  else if isPlain b then [Char.ofNat b.toNat]
  else Url.encodeByte b

def encodeText (text : String) : List Char :=
  (Text.Utf8.encode text).flatMap encodeByte

def encodePair (pair : String × String) : List Char :=
  encodeText pair.1 ++ '=' :: encodeText pair.2

def encode : List (String × String) → List Char
  | [] => []
  | [last] => encodePair last
  | pair :: rest => encodePair pair ++ '&' :: encode rest

def decodeText (bytes : List UInt8) : String :=
  Text.Utf8.decodeLossy (decodeBytes (bytes.map fun b => if b = 0x2B then 0x20 else b))

def splitBytes (separator : UInt8) (bytes : List UInt8) : List (List UInt8) :=
  let step := fun (b : UInt8) (parts : List (List UInt8)) =>
    match parts with
    | [] => [[b]]
    | part :: later => if b = separator then [] :: part :: later else (b :: part) :: later
  bytes.foldr step [[]]

/-- The name and the value of an encoded pair: what stands before and after the first equals
sign. -/
def decodePair (bytes : List UInt8) : String × String :=
  (decodeText (bytes.takeWhile (· ≠ 0x3D)), decodeText ((bytes.dropWhile (· ≠ 0x3D)).drop 1))

/-- The pairs of an encoded query. Empty parts are no pairs. -/
def decode (query : String) : List (String × String) :=
  ((splitBytes 0x26 (Text.Utf8.encode query)).filter fun part => !part.isEmpty).map decodePair

end Form

end PresenceGateway
