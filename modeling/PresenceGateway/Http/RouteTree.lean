import PresenceGateway.Http.Pattern
/-!
Patterns gathered in a tree, and the search for the one that a path follows.

Patterns that begin alike share a branch. A static branch goes before a wildcard beside it: the wildcard
is tried only after the static branch has missed. A path that differs from a pattern by a last slash
alone is near it, and the search then ends at once instead of going back to a wildcard.
-/
namespace PresenceGateway.Http

/-- A tree of patterns, as a list of alternatives: static branches by their first character, then at
most one wildcard. A value stands where a pattern ends. -/
inductive RouteTree (α : Type) where
  | nil
  | static (label : List Char) (value : Option α) (below others : RouteTree α)
  | segment (value : Option α) (below : RouteTree α)
  | rest (value : α)

namespace RouteTree

variable {α : Type}

/-! ### Building -/

def lengthen (c : Char) : RouteTree α → RouteTree α
  | static label value below others => static (c :: label) value below others
  | tree => static [c] none tree nil

def beside (wildcard : RouteTree α) : RouteTree α → RouteTree α
  | static label value below _ => static label value below wildcard
  | tree => tree

/-- The tree of one pattern, unless the rest of the path is asked for inside a segment. -/
def single? (value : α) : Pattern → Option (RouteTree α)
  | [] => none
  | .char c :: more =>
    match more with
    | [] => some (static [c] (some value) nil nil)
    | .rest :: _ => if c = '/' then (single? value more).map (static [c] none · nil) else none
    | .segment :: _ => (single? value more).map (static [c] none · nil)
    | .char _ :: _ => (single? value more).map (lengthen c)
  | .segment :: more =>
    match more with
    | [] => some (segment (some value) nil)
    | _ :: _ => (single? value more).map (segment none)
  | .rest :: _ => some (rest value)

def shared : List Char → Pattern → Nat
  | c :: label, .char d :: pattern => if c = d then shared label pattern + 1 else 0
  | _, _ => 0

/-- Adds a pattern to a tree. It is refused where another pattern ends in the same place, and where it
asks for a wildcard of another kind than the one that is there. -/
def add? (value : α) : Pattern → RouteTree α → Option (RouteTree α)
  | pattern, nil => single? value pattern
  | .char c :: pattern, static label held below others =>
    if label.head? = some c then
      let common := shared label (.char c :: pattern)
      let left := (Piece.char c :: pattern).drop common
      if common < label.length then
        let lower := static (label.drop common) held below
        if left.isEmpty then some (static (label.take common) (some value) (lower nil) others)
        else (single? value left).map fun new => static (label.take common) none (lower new) others
      else if left.isEmpty then
        if held.isSome then none else some (static label (some value) below others)
      else (add? value left below).map (static label held · others)
    else (add? value (.char c :: pattern) others).map (static label held below)
  | pattern, static label held below others =>
    (add? value pattern others).map (static label held below)
  | .char c :: pattern, wildcard => (single? value (.char c :: pattern)).map (beside wildcard)
  | .segment :: pattern, segment held below =>
    if pattern.isEmpty then if held.isSome then none else some (segment (some value) below)
    else (add? value pattern below).map (segment held)
  | _, _ => none

def ofList? (routes : List (Pattern × α)) : Option (RouteTree α) :=
  routes.foldlM (fun tree route => add? route.2 route.1 tree) nil

/-! ### Searching -/

/-- What a search says: the value found, that this branch has none, or that no branch is to be
tried any more. -/
inductive Search (α : Type) where
  | found (value : α)
  | missed
  | refused

def Search.without (path : List Char) : Search α :=
  if path = ['/'] then refused else missed

def Search.ending (path : List Char) : Option α → Search α
  | some value => found value
  | none => without path

def follow (label : List Char) (value : Option α) (below : List Char → Search α)
    (path : List Char) : Search α :=
  if label.isPrefixOf path then
    if path.length = label.length then .ending path value else below (path.drop label.length)
  else if value.isSome && label = path ++ ['/'] then .refused
  else .without path

/-- Whether a lone slash is left after a place where a pattern ends, and the branch wants more. -/
def strays (ends : Bool) (label path : List Char) : Bool :=
  ends && path = ['/'] && label ≠ ['/']

/-- Searches the alternatives of a tree for what is left of a path. `ends` says whether a pattern ends
where they begin. -/
def search (ends : Bool) : RouteTree α → List Char → Search α
  | nil, path => .without path
  | static label value below others, path =>
    if label.head? = path.head? then
      if strays ends label path then .refused
      else match follow label value (search value.isSome below) path with
        | .missed => search ends others path
        | outcome => outcome
    else search ends others path
  | segment value below, path =>
    match path.dropWhile (· ≠ '/') with
    | [] =>
      match value, below with
      | some value, _ => .found value
      | none, static label held _ _ => if held.isSome && label = ['/'] then .refused else .missed
      | none, _ => .refused
    | later =>
      match below with
      | static label held deeper _ =>
        if strays value.isSome label later then .refused
        else follow label held (search held.isSome deeper) later
      | _ => if later.length = 1 then .refused else .missed
  | rest value, _ => .found value

def find? (tree : RouteTree α) (path : String) : Option α :=
  match tree.search false path.toList with
  | .found value => some value
  | _ => none

end RouteTree

end PresenceGateway.Http
