import PresenceGateway.Json.Reader
/-!
The answers of a DSM station.

Every answer is an envelope that says whether the call succeeded, with the data of a success and the
code of a failure. Answers are read from JSON texts as they are written: a record is an object or an
array of its fields in order, a field that is written twice is an error, and whatever is in a member
that nobody asks for only has to be JSON.
-/
namespace PresenceGateway.Dsm

open Json (Tree Value StringUnits)

structure Envelope (Data : Type) where
  success : Bool
  data : Option Data
  code : Option Int

structure Descriptor where
  path : String
  maxVersion : Nat
deriving DecidableEq

namespace Read

/-- How a part of an answer is read, given how many arrays and objects may still be opened. -/
abbrev Reader (α : Type) := Nat → Tree → Option α

def flag : Reader Bool
  | _, .bool value => some value
  | _, _ => none

def text : Reader String
  | _, .string units => units.text?
  | _, _ => none

def integer (low high : Int) : Reader Int
  | _, .number numeral =>
    match Json.Number.ofNumeral? numeral with
    | some (.integer value _) => if low ≤ value ∧ value ≤ high then some value else none
    | _ => none
  | _, _ => none

def value : Reader Value := fun levels tree => tree.toValue? levels

def nullable {α : Type} (read : Reader α) (levels : Nat) : Tree → Option (Option α)
  | .null => some none
  | tree => (read levels tree).map some

def items {α : Type} (read : Reader α) : Reader (List α)
  | levels + 1, .array trees => trees.mapM (read levels)
  | _, _ => none

def members : Nat → Tree → Option (List (String × Tree))
  | _ + 1, .object pairs => pairs.mapM fun pair => pair.1.text?.map fun key => (key, pair.2)
  | _, _ => none

/-- The member of a key, if there is one. Two are an error. -/
def member (pairs : List (String × Tree)) (key : String) : Option (Option Tree) :=
  match pairs.filter fun pair => pair.1 = key with
  | [] => some none
  | [pair] => some (some pair.2)
  | _ => none

def required {α : Type} (read : Reader α) (levels : Nat) (found : Option Tree) : Option α :=
  found.bind (read levels)

def optional {α : Type} (read : Reader α) (levels : Nat) : Option Tree → Option (Option α)
  | none => some none
  | some tree => nullable read levels tree

def withDefault {α : Type} (default : α) (read : Reader α) (levels : Nat) :
    Option Tree → Option α
  | none => some default
  | some tree => read levels tree

/-- The fields of a record by their names. In an array `needed` of them have to be there. -/
def fields (names : List String) (needed : Nat) (levels : Nat) (tree : Tree) :
    Option (List (Option Tree)) :=
  match tree with
  | .array trees =>
    if 0 < levels ∧ needed ≤ trees.length ∧ trees.length ≤ names.length then
      some (trees.map some ++ List.replicate (names.length - trees.length) none)
    else none
  | tree => (members levels tree).bind fun pairs => names.mapM (member pairs)

def code : Reader Int := fun levels tree =>
  match fields ["code"] 1 levels tree with
  | some [found] => required (integer (-0x8000000000000000) 0x7FFFFFFFFFFFFFFF) (levels - 1) found
  | _ => none

def envelope {α : Type} (data : Reader α) : Reader (Envelope α) := fun levels tree =>
  match fields ["success", "data", "error"] 3 levels tree with
  | some [success, found, failure] =>
    match required flag (levels - 1) success, optional data (levels - 1) found,
        optional code (levels - 1) failure with
    | some success, some data, some code => some { success, data, code }
    | _, _, _ => none
  | _ => none

def descriptor : Reader Descriptor := fun levels tree =>
  match fields ["path", "maxVersion"] 2 levels tree with
  | some [path, version] =>
    match required text (levels - 1) path, required (integer 0 0xFFFFFFFF) (levels - 1) version with
    | some path, some version => some { path, maxVersion := version.toNat }
    | _, _ => none
  | _ => none

def descriptors : Reader (List (String × Descriptor)) := fun levels tree =>
  (members levels tree).bind fun pairs =>
    pairs.mapM fun pair =>
      (descriptor (levels - 1) pair.2).map fun found => (pair.1, found)

def sessionId : Reader String := fun levels tree =>
  match fields ["sid"] 1 levels tree with
  | some [sid] => required text (levels - 1) sid
  | _ => none

def interface : Reader (Option String) := fun levels tree =>
  match fields ["mac"] 1 levels tree with
  | some [mac] => optional text (levels - 1) mac
  | _ => none

def addresses : Reader (List String) := fun levels tree =>
  match fields ["interfaces"] 0 levels tree with
  | some [interfaces] =>
    (withDefault [] (items interface) (levels - 1) interfaces).map fun found =>
      (found.filterMap id).filter fun mac => !mac.isEmpty
  | _ => none

def body {α : Type} (read : Reader α) (bytes : List UInt8) : Option α :=
  (Tree.read? bytes).bind (read Json.maxDepth)

end Read

end PresenceGateway.Dsm
