/-!
Patterns of request paths.

A pattern is a path in which `:name` stands for what is left of a segment and a last `*name` for
everything that is left. The names matter to nobody, so a pattern keeps only where they stand.
-/
namespace PresenceGateway.Http

/-- A piece of a pattern: one character, the rest of a segment, or the rest of the path. -/
inductive Piece where
  | char (c : Char)
  | segment
  | rest
deriving DecidableEq

abbrev Pattern := List Piece

namespace Pattern

def isMark (c : Char) : Bool :=
  c == ':' || c == '*'

def ofChars? : List Char → Option Pattern
  | [] => some []
  | ':' :: cs =>
    let name := cs.takeWhile (· ≠ '/')
    if name.isEmpty || name.any isMark then none
    else (ofChars? (cs.dropWhile (· ≠ '/'))).map (.segment :: ·)
  | '*' :: cs =>
    if cs.isEmpty || cs.contains '/' || cs.any isMark then none else some [.rest]
  | c :: cs => (ofChars? cs).map (.char c :: ·)
termination_by cs => cs.length
decreasing_by
  · have shorter := (List.dropWhile_suffix (p := fun c => decide (c ≠ '/')) (l := cs)).length_le
    simp only [List.length_cons]
    omega
  · simp only [List.length_cons]
    omega

def segmentLimit : Nat := 25

def parse? (text : String) : Option Pattern :=
  if text.toList.head? = some '/' then
    (ofChars? text.toList).filter fun pattern => pattern.count .segment ≤ segmentLimit
  else none

end Pattern

end PresenceGateway.Http
