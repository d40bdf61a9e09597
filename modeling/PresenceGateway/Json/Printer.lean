import PresenceGateway.Json.Value
import PresenceGateway.Decimal.Shortest
import PresenceGateway.Text.Blank
/-!
The compact text of a JSON value: no blanks, members in the order of the object, only quotes,
backslashes and controls escaped.
-/
namespace PresenceGateway.Json

def escapeChar (c : Char) : List Char :=
  if c = '"' then ['\\', '"']
  else if c = '\\' then ['\\', '\\']
  else if c.toNat = 8 then ['\\', 'b']
  else if c = '\t' then ['\\', 't']
  else if c = '\n' then ['\\', 'n']
  else if c.toNat = 12 then ['\\', 'f']
  else if c = '\r' then ['\\', 'r']
  else if c.toNat < 0x20 then
    ['\\', 'u', '0', '0', if c.toNat < 0x10 then '0' else '1',
      Nat.digitChar (c.toNat % 16)]
  else [c]

def quoteChars (text : String) : List Char :=
  '"' :: (text.toList.flatMap escapeChar ++ ['"'])

def integerChars (value : Int) : List Char :=
  if value < 0 then '-' :: Decimal.digits value.natAbs else Decimal.digits value.natAbs

def Number.chars : Number → List Char
  | .integer value _ => integerChars value
  | .double value => DoubleStyle.compact.text value

namespace Value

def commas : List (List Char) → List Char
  | [] => []
  | [last] => last
  | item :: rest => item ++ ',' :: commas rest

mutual

def chars : Value → List Char
  | .null => ['n', 'u', 'l', 'l']
  | .bool true => ['t', 'r', 'u', 'e']
  | .bool false => ['f', 'a', 'l', 's', 'e']
  | .number value => value.chars
  | .string value => quoteChars value
  | .array items => '[' :: (commas (charsOfItems items) ++ [']'])
  | .object members => '\x7b' :: (commas (charsOfMembers members) ++ ['\x7d'])

def charsOfItems : List Value → List (List Char)
  | [] => []
  | item :: rest => item.chars :: charsOfItems rest

def charsOfMembers : List (String × Value) → List (List Char)
  | [] => []
  | (key, value) :: rest => (quoteChars key ++ ':' :: value.chars) :: charsOfMembers rest

end

def text (value : Value) : String :=
  String.ofList value.chars

end Value

def Number.text (number : Number) : String :=
  String.ofList number.chars

end PresenceGateway.Json
