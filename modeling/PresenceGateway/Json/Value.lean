import PresenceGateway.Decimal.Binary64
/-!
JSON values.

A value is what a JSON text means: numbers are 64-bit integers or binary64 numbers, and an object is
a list of members with ascending keys, each key once. `Members.insert` keeps that order, and
`Value.Ordered` says that it holds all the way down.
-/
namespace PresenceGateway.Json

/-- A JSON number: an integer of the signed or the unsigned 64-bit range, or a binary64 number. -/
inductive Number where
  | integer (value : Int) (fits : -0x8000000000000000 ≤ value ∧ value < 0x10000000000000000)
  | double (value : Binary64)
deriving DecidableEq

inductive Value where
  | null
  | bool (value : Bool)
  | number (value : Number)
  | string (value : String)
  | array (items : List Value)
  | object (members : List (String × Value))

abbrev Members := List (String × Value)

namespace Members

def get? (members : Members) (key : String) : Option Value :=
  members.lookup key

def insert (key : String) (value : Value) : Members → Members
  | [] => [(key, value)]
  | (other, old) :: rest =>
    if key = other then (key, value) :: rest
    else if key < other then (key, value) :: (other, old) :: rest
    else (other, old) :: insert key value rest

def erase (members : Members) (key : String) : Members :=
  members.filter fun member => member.1 ≠ key

/-- Members from pairs in any order. The last pair of a key counts. -/
def ofList (pairs : List (String × Value)) : Members :=
  pairs.foldl (fun members pair => insert pair.1 pair.2 members) []

end Members

namespace Number

def ofNat (n : Nat) : Number :=
  if fits : n < 0x10000000000000000 then .integer n ⟨by omega, by omega⟩ else .integer 0 (by decide)

/-- The nearest binary64 number. Every 64-bit integer has one. -/
def toBinary64 : Number → Binary64
  | .integer value _ =>
    ((Binary64.ofNat? value.natAbs).map fun x => if value < 0 then x.neg else x).getD (.zero false)
  | .double value => value

end Number

namespace Value

def ofNat (n : Nat) : Value :=
  .number (.ofNat n)

def ofPairs (pairs : List (String × Value)) : Value :=
  .object (Members.ofList pairs)

def ofOption : Option Value → Value
  | none => .null
  | some value => value

def members? : Value → Option Members
  | .object members => some members
  | _ => none

/-- Whether a value counts as present: null, false, zero and the empty text, list and object do
not. -/
def isTruthy : Value → Bool
  | .null => false
  | .bool value => value
  | .number value => !value.toBinary64.isZero
  | .string value => !value.isEmpty
  | .array items => !items.isEmpty
  | .object members => !members.isEmpty

/-- Every object inside a value has its keys in ascending order, each once. -/
inductive Ordered : Value → Prop where
  | null : Ordered .null
  | bool (value : Bool) : Ordered (.bool value)
  | number (value : Number) : Ordered (.number value)
  | string (value : String) : Ordered (.string value)
  | array {items : List Value} : (∀ item ∈ items, Ordered item) → Ordered (.array items)
  | object {members : Members} : members.Pairwise (fun first second => first.1 < second.1) →
      (∀ member ∈ members, Ordered member.2) → Ordered (.object members)

end Value

end PresenceGateway.Json
