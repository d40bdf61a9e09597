import PresenceGateway.Json.Printer
import PresenceGateway.Json.Reader
import PresenceGateway.Json.Relaxed
/-!
Stored JSON documents.

A document is a text that was stored. One that was written here is kept as the tree it was written
from, which has the order of members and the digits of numbers, and one that came from elsewhere is
kept as it is and may not be JSON at all. A patch is merged into a written document tree by tree, and
into any other one as relaxed JSON, of which each value stays as it is written.
-/
namespace PresenceGateway.Json

/-! ### Writing trees -/

namespace StringUnits

/-- A character as units of a written string. A control without a short escape is escaped by its
number. -/
def ofChar (c : Char) : StringUnits :=
  let n := c.toNat
  if n < 0x20 && n != 8 && n != 9 && n != 10 && n != 12 && n != 13 then [.escaped n]
  else (String.utf8EncodeChar c).map .byte

def ofText (text : String) : StringUnits :=
  text.toList.flatMap ofChar

def hexBytes (unit : Nat) : List UInt8 :=
  [unit / 4096, unit / 256, unit / 16, unit].map fun n =>
    UInt8.ofNat (Nat.digitChar (n % 16)).toNat

def unitBytes : StringUnit → List UInt8
  | .escaped unit => 0x5C :: 0x75 :: hexBytes unit
  | .byte b =>
    if b = 0x22 then [0x5C, 0x22]
    else if b = 0x5C then [0x5C, 0x5C]
    else if b = 0x08 then [0x5C, 0x62]
    else if b = 0x09 then [0x5C, 0x74]
    else if b = 0x0A then [0x5C, 0x6E]
    else if b = 0x0C then [0x5C, 0x66]
    else if b = 0x0D then [0x5C, 0x72]
    else [b]

def toBytes (units : StringUnits) : List UInt8 :=
  0x22 :: (units.flatMap unitBytes ++ [0x22])

end StringUnits

def Number.numeral (number : Number) : Numeral :=
  (Numeral.read? number.chars).getD ⟨false, [0], [], none⟩

namespace Tree

mutual

def ofValue : Value → Tree
  | .null => .null
  | .bool value => .bool value
  | .number value => .number value.numeral
  | .string text => .string (StringUnits.ofText text)
  | .array items => .array (ofValues items)
  | .object members => .object (ofMembers members)

def ofValues : List Value → List Tree
  | [] => []
  | item :: rest => ofValue item :: ofValues rest

def ofMembers : List (String × Value) → List (StringUnits × Tree)
  | [] => []
  | (key, value) :: rest => (StringUnits.ofText key, ofValue value) :: ofMembers rest

end

def digitBytes (digits : List Nat) : List UInt8 :=
  digits.map fun digit => UInt8.ofNat (0x30 + digit)

def numeralBytes (numeral : Numeral) : List UInt8 :=
  let sign := if numeral.negative then [0x2D] else []
  let fraction := if numeral.fraction.isEmpty then [] else 0x2E :: digitBytes numeral.fraction
  let exponent := match numeral.exponent with
    | none => []
    | some size => 0x65 :: (if size < 0 then 0x2D else 0x2B) ::
        (Decimal.digits size.natAbs).map fun c => UInt8.ofNat c.toNat
  sign ++ digitBytes numeral.whole ++ fraction ++ exponent

def commas : List (List UInt8) → List UInt8
  | [] => []
  | [last] => last
  | item :: rest => item ++ 0x2C :: commas rest

mutual

def toBytes : Tree → List UInt8
  | .null => [0x6E, 0x75, 0x6C, 0x6C]
  | .bool true => [0x74, 0x72, 0x75, 0x65]
  | .bool false => [0x66, 0x61, 0x6C, 0x73, 0x65]
  | .number numeral => numeralBytes numeral
  | .string units => units.toBytes
  | .array items => 0x5B :: (commas (bytesOfItems items) ++ [0x5D])
  | .object members => 0x7B :: (commas (bytesOfMembers members) ++ [0x7D])

def bytesOfItems : List Tree → List (List UInt8)
  | [] => []
  | item :: rest => toBytes item :: bytesOfItems rest

def bytesOfMembers : List (StringUnits × Tree) → List (List UInt8)
  | [] => []
  | (key, tree) :: rest => (key.toBytes ++ 0x3A :: toBytes tree) :: bytesOfMembers rest

end

end Tree

/-! ### Merging trees -/

namespace Tree

mutual

def outline : Tree → Outline StringUnits Tree
  | .null => .null
  | .object members => .object (outlineMembers members)
  | tree => .leaf tree

def outlineMembers : List (StringUnits × Tree) → List (StringUnits × Outline StringUnits Tree)
  | [] => []
  | (key, tree) :: rest => (key, outline tree) :: outlineMembers rest

end

mutual

def ofOutline : Outline StringUnits Tree → Tree
  | .null => .null
  | .leaf tree => tree
  | .object members => .object (membersOfOutlines members)

def membersOfOutlines :
    List (StringUnits × Outline StringUnits Tree) → List (StringUnits × Tree)
  | [] => []
  | (key, value) :: rest => (key, ofOutline value) :: membersOfOutlines rest

end

def merge (target patch : Tree) : Tree :=
  ofOutline (target.outline.merge patch.outline)

end Tree

/-! ### Documents -/

inductive Document where
  | written (tree : Tree)
  | found (text : String)

namespace Document

def ofMembers (members : Members) : Document :=
  .written (Tree.ofValue (.object members))

def text : Document → String
  | .written tree => Text.Utf8.decodeLossy tree.toBytes
  | .found text => text

def merge? : Document → Document → Option Document
  | .written target, .written patch => some (.written (target.merge patch))
  | target, patch =>
    match Relaxed.read? target.text, Relaxed.read? patch.text with
    | some outline, some change =>
      some (.found (String.ofList (Relaxed.chars (outline.merge change))))
    | _, _ => none

def tree? : Document → Option Tree
  | .written tree => some tree
  | .found text => Tree.read? (Text.Utf8.encode text)

def members? (document : Document) : Option Members :=
  (document.tree?.bind (Tree.toValue? maxDepth)).bind Value.members?

end Document

end PresenceGateway.Json
