import PresenceGateway.Decimal.Numeral
/-!
JSON texts as they are written.

A tree keeps what a reader may or may not care about: the order and repetition of members, the
digits of numbers, and the bytes and escapes of strings. Reading a tree checks the grammar only;
whether numbers fit, strings are texts and the nesting is bounded is decided by what the tree is
turned into. Reading has two steps, from bytes to tokens and from tokens to a tree, and the second
keeps its open arrays and objects in a list, so that the depth of a text is not the depth of the
reader.
-/
namespace PresenceGateway.Json

/-- A unit of a written string: a byte that stands for itself or an escaped UTF-16 unit. -/
inductive StringUnit where
  | byte (value : UInt8)
  | escaped (unit : Nat)
deriving DecidableEq

abbrev StringUnits := List StringUnit

inductive Token where
  | beginArray | endArray | beginObject | endObject | colon | comma
  | null
  | bool (value : Bool)
  | number (numeral : Numeral)
  | string (units : StringUnits)
deriving DecidableEq

namespace Token

def isSpace (b : UInt8) : Bool :=
  b == 0x20 || b == 0x09 || b == 0x0A || b == 0x0D

def isDigit (b : UInt8) : Bool :=
  0x30 ≤ b && b ≤ 0x39

def takeDigits (bytes : List UInt8) : List Nat × List UInt8 :=
  ((bytes.takeWhile isDigit).map fun b => b.toNat - 0x30, bytes.dropWhile isDigit)

def hexDigit? (b : UInt8) : Option Nat :=
  if 0x30 ≤ b && b ≤ 0x39 then some (b.toNat - 0x30)
  else if 0x61 ≤ b && b ≤ 0x66 then some (b.toNat - 0x57)
  else if 0x41 ≤ b && b ≤ 0x46 then some (b.toNat - 0x37)
  else none

def hexUnit? (a b c d : UInt8) : Option Nat :=
  match hexDigit? a, hexDigit? b, hexDigit? c, hexDigit? d with
  | some a, some b, some c, some d => some (((a * 16 + b) * 16 + c) * 16 + d)
  | _, _, _, _ => none

def shortEscape? (b : UInt8) : Option UInt8 :=
  if b = 0x22 then some 0x22
  else if b = 0x5C then some 0x5C
  else if b = 0x2F then some 0x2F
  else if b = 0x62 then some 0x08
  else if b = 0x66 then some 0x0C
  else if b = 0x6E then some 0x0A
  else if b = 0x72 then some 0x0D
  else if b = 0x74 then some 0x09
  else none

/-- Reads a string after its opening quote, up to and including the closing one. The units read so
far are in `done`, last first. -/
def takeString (done : StringUnits) : List UInt8 → Option (StringUnits × List UInt8)
  | [] => none
  | 0x22 :: rest => some (done.reverse, rest)
  | 0x5C :: 0x75 :: a :: b :: c :: d :: rest =>
    match hexUnit? a b c d with
    | some unit => takeString (.escaped unit :: done) rest
    | none => none
  | 0x5C :: letter :: rest =>
    match shortEscape? letter with
    | some b => takeString (.byte b :: done) rest
    | none => none
  | [0x5C] => none
  | b :: rest => if b < 0x20 then none else takeString (.byte b :: done) rest

def takeFraction (bytes : List UInt8) : Option (List Nat × List UInt8) :=
  match bytes with
  | 0x2E :: rest =>
    match takeDigits rest with
    | ([], _) => none
    | found => some found
  | _ => some ([], bytes)

def takeExponent (bytes : List UInt8) : Option (Option Int × List UInt8) :=
  match bytes with
  | mark :: rest =>
    if mark = 0x65 ∨ mark = 0x45 then
      let (negative, unsigned) := match rest with
        | 0x2D :: later => (true, later)
        | 0x2B :: later => (false, later)
        | _ => (false, rest)
      match takeDigits unsigned with
      | ([], _) => none
      | (digits, later) =>
        let size : Int := Numeral.ofDigits digits
        some (some (if negative then -size else size), later)
    else some (none, bytes)
  | [] => some (none, [])

def takeWhole (bytes : List UInt8) : Option (List Nat × List UInt8) :=
  match bytes with
  | 0x30 :: rest =>
    match rest with
    | b :: _ => if isDigit b then none else some ([0], rest)
    | [] => some ([0], [])
  | _ =>
    match takeDigits bytes with
    | ([], _) => none
    | found => some found

def takeNumber (bytes : List UInt8) : Option (Numeral × List UInt8) :=
  let (negative, unsigned) := match bytes with
    | 0x2D :: rest => (true, rest)
    | _ => (false, bytes)
  match takeWhole unsigned with
  | none => none
  | some (whole, afterWhole) =>
    match takeFraction afterWhole with
    | none => none
    | some (fraction, afterFraction) =>
      match takeExponent afterFraction with
      | none => none
      | some (exponent, rest) => some (⟨negative, whole, fraction, exponent⟩, rest)

def take (b : UInt8) (rest : List UInt8) : Option (Token × List UInt8) :=
  if b = 0x5B then some (.beginArray, rest)
  else if b = 0x5D then some (.endArray, rest)
  else if b = 0x7B then some (.beginObject, rest)
  else if b = 0x7D then some (.endObject, rest)
  else if b = 0x3A then some (.colon, rest)
  else if b = 0x2C then some (.comma, rest)
  else if b = 0x22 then (takeString [] rest).map fun found => (.string found.1, found.2)
  else if b = 0x6E then
    match rest with
    | 0x75 :: 0x6C :: 0x6C :: later => some (.null, later)
    | _ => none
  else if b = 0x74 then
    match rest with
    | 0x72 :: 0x75 :: 0x65 :: later => some (.bool true, later)
    | _ => none
  else if b = 0x66 then
    match rest with
    | 0x61 :: 0x6C :: 0x73 :: 0x65 :: later => some (.bool false, later)
    | _ => none
  else (takeNumber (b :: rest)).map fun found => (.number found.1, found.2)

/-- Reads tokens into `done`, last first, until the bytes end. The bound is the number of bytes:
every token takes at least one. -/
def readOnto : Nat → List Token → List UInt8 → Option (List Token)
  | _, done, [] => some done.reverse
  | 0, _, _ :: _ => none
  | bound + 1, done, b :: rest =>
    if isSpace b then readOnto bound done rest
    else match take b rest with
      | some (token, later) => readOnto bound (token :: done) later
      | none => none

def read? (bytes : List UInt8) : Option (List Token) :=
  readOnto bytes.length [] bytes

end Token

inductive Tree where
  | null
  | bool (value : Bool)
  | number (numeral : Numeral)
  | string (units : StringUnits)
  | array (items : List Tree)
  | object (members : List (StringUnits × Tree))

namespace Tree

/-- An array or an object that is still open: what it holds so far, last first, and for an object
the key of the member being read. -/
inductive Open where
  | array (done : List Tree)
  | object (done : List (StringUnits × Tree)) (key : StringUnits)

/-- What may come next: a value; the first item or the end of an array; the first member or the end
of an object; a key; the colon after a key; a comma or an end; or nothing any more. -/
inductive Expected where
  | value
  | firstItem
  | firstMember
  | key (done : List (StringUnits × Tree))
  | colon (done : List (StringUnits × Tree)) (key : StringUnits)
  | more (finished : Tree)

def begin? (opened : List Open) : Token → Option (Expected × List Open)
  | .null => some (.more .null, opened)
  | .bool value => some (.more (.bool value), opened)
  | .number numeral => some (.more (.number numeral), opened)
  | .string units => some (.more (.string units), opened)
  | .beginArray => some (.firstItem, opened)
  | .beginObject => some (.firstMember, opened)
  | _ => none

def step? (opened : List Open) : Expected → Token → Option (Expected × List Open)
  | .value, token => begin? opened token
  | .firstItem, .endArray => some (.more (.array []), opened)
  | .firstItem, token => begin? (.array [] :: opened) token
  | .firstMember, .endObject => some (.more (.object []), opened)
  | .firstMember, .string key => some (.colon [] key, opened)
  | .firstMember, _ => none
  | .key done, .string key => some (.colon done key, opened)
  | .key _, _ => none
  | .colon done key, .colon => some (.value, .object done key :: opened)
  | .colon _ _, _ => none
  | .more finished, token =>
    match opened, token with
    | .array done :: outer, .comma => some (.value, .array (finished :: done) :: outer)
    | .array done :: outer, .endArray => some (.more (.array (finished :: done).reverse), outer)
    | .object done key :: outer, .comma => some (.key ((key, finished) :: done), outer)
    | .object done key :: outer, .endObject =>
      some (.more (.object ((key, finished) :: done).reverse), outer)
    | _, _ => none

def run (expected : Expected) (opened : List Open) : List Token → Option Tree
  | [] =>
    match expected, opened with
    | .more finished, [] => some finished
    | _, _ => none
  | token :: rest =>
    match step? opened expected token with
    | some (next, later) => run next later rest
    | none => none

def ofTokens? (tokens : List Token) : Option Tree :=
  run .value [] tokens

def read? (bytes : List UInt8) : Option Tree :=
  (Token.read? bytes).bind ofTokens?

end Tree

end PresenceGateway.Json
