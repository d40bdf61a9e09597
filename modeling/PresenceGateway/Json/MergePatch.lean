/-!
Merge patches.

A patch that is an object changes the members of its target that it names: a null takes the member
away, an object is merged into it, and anything else takes its place. Members that the target has
stay where they are, and new ones come last. Any other patch takes the place of its target. Only that
much of a JSON text matters here: which values are nulls, which are objects, and what keys these have.
-/
namespace PresenceGateway.Json

/-- What a merge sees of a value: a null, an object, or anything else. -/
inductive Outline (κ α : Type) where
  | null
  | leaf (value : α)
  | object (members : List (κ × Outline κ α))

namespace Outline

variable {κ α : Type} [DecidableEq κ]

def membersOrNone : Outline κ α → List (κ × Outline κ α)
  | .object members => members
  | _ => []

def removeMember (key : κ) : List (κ × Outline κ α) → List (κ × Outline κ α)
  | [] => []
  | (other, value) :: rest =>
    if other = key then rest else (other, value) :: removeMember key rest

def putMember (key : κ) (value : Outline κ α) :
    List (κ × Outline κ α) → List (κ × Outline κ α)
  | [] => [(key, value)]
  | (other, old) :: rest =>
    if other = key then (other, value) :: rest else (other, old) :: putMember key value rest

def member? (key : κ) : List (κ × Outline κ α) → Option (Outline κ α)
  | [] => none
  | (other, value) :: rest => if other = key then some value else member? key rest

mutual

def merge (target : Outline κ α) : Outline κ α → Outline κ α
  | .object patch => .object (mergeMembers target.membersOrNone patch)
  | patch => patch

def mergeMembers (members : List (κ × Outline κ α)) :
    List (κ × Outline κ α) → List (κ × Outline κ α)
  | [] => members
  | (key, .null) :: rest => mergeMembers (removeMember key members) rest
  | (key, patch) :: rest =>
    mergeMembers (putMember key (merge ((member? key members).getD .null) patch) members) rest

end

end Outline

end PresenceGateway.Json
