import PresenceGateway.Json.Value
import PresenceGateway.Decimal.Shortest
import PresenceGateway.Text.Quoted
/-!
Reading typed data from JSON values, and what is said when it is not there.

A record is read from an object, whose unknown members do not matter, or from an array of its fields
in order. An enumeration is read from its name, or from an object whose single member has that name
and the value null.
-/
namespace PresenceGateway.Json

inductive Found where
  | null
  | bool (value : Bool)
  | integer (value : Int)
  | double (value : Binary64)
  | string (value : String)
  | sequence
  | map

namespace Found

def ofValue : Value → Found
  | .null => .null
  | .bool value => .bool value
  | .number (.integer value _) => .integer value
  | .number (.double value) => .double value
  | .string value => .string value
  | .array _ => .sequence
  | .object _ => .map

def text : Found → String
  | .null => "null"
  | .bool value => "boolean `" ++ (if value then "true" else "false") ++ "`"
  | .integer value => "integer `" ++ toString value ++ "`"
  | .double value => "floating point `" ++ String.ofList (DoubleStyle.compact.text value) ++ "`"
  | .string value => "string " ++ Text.quote value
  | .sequence => "sequence"
  | .map => "map"

end Found

inductive DecodeError where
  | missingField (name : String)
  | wrongType (found : Found) (expected : String)
  | wrongValue (found : Found) (expected : String)
  | wrongLength (length : Nat) (expected : String)
  | unknownVariant (name : String) (allowed : List String)
  | noVariant (type : String)

namespace DecodeError

def allowedText (names : List String) : String :=
  let quoted := names.map fun name => "`" ++ name ++ "`"
  match quoted with
  | [] => "there are no variants"
  | [only] => "expected " ++ only
  | [first, second] => "expected " ++ first ++ " or " ++ second
  | _ => "expected one of " ++ String.intercalate ", " quoted

def message : DecodeError → String
  | .missingField name => "missing field `" ++ name ++ "`"
  | .wrongType found expected => "invalid type: " ++ found.text ++ ", expected " ++ expected
  | .wrongValue found expected => "invalid value: " ++ found.text ++ ", expected " ++ expected
  | .wrongLength length expected =>
    "invalid length " ++ toString length ++ ", expected " ++ expected
  | .unknownVariant name allowed => "unknown variant `" ++ name ++ "`, " ++ allowedText allowed
  | .noVariant type => "data did not match any variant of untagged enum " ++ type

end DecodeError

namespace Decode

def string : Value → Except DecodeError String
  | .string value => .ok value
  | value => .error (.wrongType (.ofValue value) "a string")

def word32 : Value → Except DecodeError Nat
  | .number (.integer value _) =>
    if 0 ≤ value ∧ value < 0x100000000 then .ok value.toNat
    else .error (.wrongValue (.integer value) "u32")
  | value => .error (.wrongType (.ofValue value) "u32")

def nullable {α : Type} (decode : Value → Except DecodeError α) :
    Value → Except DecodeError (Option α)
  | .null => .ok none
  | value => (decode value).map some

def present : Option Value → Option Value
  | some .null => none
  | found => found

def optional {α : Type} (decode : Value → Except DecodeError α) :
    Option Value → Except DecodeError (Option α)
  | none => .ok none
  | some value => (decode value).map some

def required {α : Type} (name : String) : Option α → Except DecodeError α
  | some value => .ok value
  | none => .error (.missingField name)

def variant {α : Type} (names : List String) (parse : String → Option α) :
    Value → Except DecodeError α
  | .string name =>
    match parse name with
    | some choice => .ok choice
    | none => .error (.unknownVariant name names)
  | .object [(name, content)] =>
    match parse name, content with
    | none, _ => .error (.unknownVariant name names)
    | some choice, .null => .ok choice
    | some _, _ => .error (.wrongType (.ofValue content) "unit")
  | .object _ => .error (.wrongValue .map "map with a single key")
  | value => .error (.wrongType (.ofValue value) "string or map")

def item {α : Type} (record : String) (decode : Value → Except DecodeError α)
    (items : List Value) (place : Nat) : Except DecodeError α :=
  match items[place]? with
  | some value => decode value
  | none => .error (.wrongLength items.length record)

def optionalItem (items : List Value) (place : Nat) : Option Value :=
  present items[place]?

/-- An array must end after the fields of a record. -/
def noMore (count : Nat) (items : List Value) : Except DecodeError Unit :=
  if count < items.length then .error (.wrongLength items.length "fewer elements in array")
  else .ok ()

/-- How a record of a known number of fields is named when an array is too short for it. -/
def sizedRecord (name : String) (count : Nat) : String :=
  name ++ " with " ++ toString count ++ " elements"

end Decode

end PresenceGateway.Json
