import PresenceGateway.Text.Alphanumeric
import PresenceGateway.Text.Blank
/-!
Patterns of field values.

A directive may ask for the value of a field with a regular expression. No directive that does decides
about an event here, but one with an expression that is not understood spoils its filter. So nothing
is matched: a pattern is only read, with what it may hold in the modes that are in force at each place.
Without tables of character properties the classes of letters, digits and blanks, the word boundaries
and the folding of case are understood only where characters are bytes.
-/
namespace PresenceGateway.Log.ValuePattern

/-- The modes that a pattern can change: whether characters are more than bytes, whether case is folded,
and whether blanks and comments are skipped. -/
structure Modes where
  unicode : Bool
  folded : Bool
  spaced : Bool

def Modes.initial : Modes := ⟨true, false, false⟩

def skip (modes : Modes) : Nat → List Char → List Char
  | 0, cs => cs
  | _, [] => []
  | bound + 1, c :: cs =>
    if modes.spaced && Text.isBlank c then skip modes bound cs
    else if modes.spaced && c == '#' then skip modes bound (cs.dropWhile (· ≠ '\n'))
    else c :: cs

def skipped (modes : Modes) (cs : List Char) : List Char :=
  skip modes cs.length cs

/-! ### Escapes -/

/-- What an escape stands for: a character of some code, a class of letters, digits or blanks or of
what is none, a property, an end of the text, or a word boundary. -/
inductive Escape where
  | literal (code : Nat) (byte : Bool)
  | kind (negated : Bool)
  | property
  | anchor
  | boundary

def hexDigit? (c : Char) : Option Nat :=
  if c.isDigit then some (c.toNat - 0x30)
  else if ('a' ≤ c ∧ c ≤ 'f') ∨ ('A' ≤ c ∧ c ≤ 'F') then some (c.toNat % 0x20 + 9)
  else none

def takeCode (count : Nat) (cs : List Char) : Option (Nat × List Char) :=
  if cs.length < count then none
  else
    match (cs.take count).mapM hexDigit? with
    | none => none
    | some digits =>
      let code := digits.foldl (fun value digit => value * 16 + digit) 0
      if code.isValidChar then some (code, cs.drop count) else none

/-- The letters that stand for a control when escaped, and their codes. -/
def controls : List (Char × Nat) :=
  [('a', 0x07), ('f', 0x0C), ('t', 0x09), ('n', 0x0A), ('r', 0x0D), ('v', 0x0B)]

def takeEscape : List Char → Option (Escape × List Char)
  | [] => none
  | c :: cs =>
    match controls.lookup c with
    | some code => some (.literal code false, cs)
    | none =>
      if c = 'x' then (takeCode 2 cs).map fun found => (.literal found.1 true, found.2)
      else if c = 'u' then (takeCode 4 cs).map fun found => (.literal found.1 false, found.2)
      else if c = 'U' then (takeCode 8 cs).map fun found => (.literal found.1 false, found.2)
      else if c ∈ ['d', 's', 'w'] then some (.kind false, cs)
      else if c ∈ ['D', 'S', 'W'] then some (.kind true, cs)
      else if c ∈ ['p', 'P'] then some (.property, cs.drop 1)
      else if c ∈ ['A', 'z'] then some (.anchor, cs)
      else if c ∈ ['b', 'B', '<', '>'] then some (.boundary, cs)
      else if c.isAlphanum || 0x80 ≤ c.toNat then none
      else some (.literal c.toNat false, cs)

def Escape.fits (modes : Modes) : Escape → Bool
  | literal code byte => if modes.unicode then !modes.folded else !byte || code < 0x80
  | kind negated => !modes.unicode && !negated
  | property => false
  | anchor => true
  | boundary => !modes.unicode

/-! ### Bracketed classes -/

def takeItem (modes : Modes) : List Char → Option (Option Nat × List Char)
  | [] => none
  | '\\' :: cs =>
    match takeEscape cs with
    | some (.literal code _, rest) => if modes.unicode || code < 0x80 then some (some code, rest) else none
    | some (.kind negated, rest) => if modes.unicode || negated then none else some (none, rest)
    | _ => none
  | c :: cs => if modes.unicode || c.toNat < 0x80 then some (some c.toNat, cs) else none

def takeRange (modes : Modes) (cs : List Char) : Option (List Char) :=
  match takeItem modes cs with
  | none => none
  | some (first, later) =>
    match skipped modes later with
    | '-' :: after =>
      match skipped modes after with
      | [] => none
      | next :: rest =>
        if next = ']' ∨ next = '-' then some ('-' :: after)
        else match first, takeItem modes (next :: rest) with
          | some low, some (some high, rest) => if low ≤ high then some rest else none
          | _, _ => none
    | later => some later

def namedClasses : List String :=
  ["alnum", "alpha", "ascii", "blank", "cntrl", "digit", "graph", "lower", "print", "punct", "space",
    "upper", "word", "xdigit"]

def afterNamed? (modes : Modes) : List Char → Option (List Char)
  | ':' :: cs =>
    let negated := cs.head? = some '^'
    let named := if negated then cs.drop 1 else cs
    match named.dropWhile (· ≠ ':') with
    | ':' :: ']' :: rest =>
      if String.ofList (named.takeWhile (· ≠ ':')) ∈ namedClasses ∧ (modes.unicode ∨ !negated) then
        some rest
      else none
    | _ => none
  | _ => none

def afterOpening? (modes : Modes) (cs : List Char) : Option (List Char) :=
  let negated := cs.head? = some '^'
  let cs := skipped modes (if negated then cs.drop 1 else cs)
  if negated && !modes.unicode then none
  else match cs with
    | ']' :: rest => some rest
    | cs => some (cs.dropWhile (· = '-'))

def afterClass? (modes : Modes) : Nat → Nat → List Char → Option (List Char)
  | 0, _, _ => none
  | bound + 1, depth, cs =>
    match skipped modes cs with
    | [] => none
    | '[' :: rest =>
      match afterNamed? modes rest with
      | some later => afterClass? modes bound depth later
      | none => (afterOpening? modes (skipped modes rest)).bind (afterClass? modes bound (depth + 1))
    | ']' :: rest => if depth ≤ 1 then some rest else afterClass? modes bound (depth - 1) rest
    | '&' :: '&' :: rest => afterClass? modes bound depth rest
    | '-' :: '-' :: rest => afterClass? modes bound depth rest
    | '~' :: '~' :: rest => afterClass? modes bound depth rest
    | cs => (takeRange modes cs).bind (afterClass? modes bound depth)

/-! ### Groups -/

/-- Reads mode letters up to a colon or a closing parenthesis, with that character and whether there was
any. A letter stands once, and a hyphen, which turns the later ones off, once and not last. -/
def takeModes (modes : Modes) (seen : List Char) : List Char → Option (Modes × Bool × Char × List Char)
  | [] => none
  | c :: cs =>
    if c = ':' ∨ c = ')' then
      if seen.head? = some '-' then none else some (modes, !seen.isEmpty, c, cs)
    else if seen.contains c then none
    else
      let on := !seen.contains '-'
      if c = 'u' then takeModes { modes with unicode := on } (c :: seen) cs
      else if c = 'i' then takeModes { modes with folded := on } (c :: seen) cs
      else if c = 'x' then takeModes { modes with spaced := on } (c :: seen) cs
      else if c ∈ ['m', 's', 'U', 'R', '-'] then takeModes modes (c :: seen) cs
      else none

def takeName? (cs : List Char) : Option (List Char × List Char) :=
  let name := cs.takeWhile (· ≠ '>')
  let begins := fun (c : Char) => c == '_' || (Text.isAlphanumeric c && !c.isDigit)
  let continues := fun (c : Char) => c ∈ ['_', '.', '[', ']'] || Text.isAlphanumeric c
  match cs.dropWhile (· ≠ '>') with
  | '>' :: rest =>
    if name.head?.any begins && name.all continues then some (name, rest) else none
  | _ => none

/-- What is open while a pattern is read: the modes in force, those to go back to at each closing
parenthesis, the names of groups, and whether something stands there that can be repeated. -/
structure State where
  modes : Modes
  outer : List Modes
  names : List (List Char)
  repeatable : Bool

def takeGroup (state : State) (cs : List Char) : Option (State × List Char) :=
  let inside := { state with outer := state.modes :: state.outer, repeatable := false }
  let named (rest : List Char) : Option (State × List Char) :=
    match takeName? rest with
    | some (name, later) =>
      if state.names.contains name then none
      else some ({ inside with names := name :: state.names }, later)
    | none => none
  match cs with
  | '?' :: 'P' :: '<' :: rest => named rest
  | '?' :: '<' :: rest => named rest
  | '?' :: rest =>
    match takeModes state.modes [] rest with
    | some (modes, _, ':', later) => some ({ inside with modes }, later)
    | some (modes, true, _, later) => some ({ state with modes, repeatable := false }, later)
    | _ => none
  | rest => some (inside, rest)

/-! ### Patterns -/

def fitsLiteral (modes : Modes) : Bool :=
  !(modes.unicode && modes.folded)

def step? (state : State) (c : Char) (cs : List Char) : Option (State × List Char) :=
  let done := { state with repeatable := true }
  if c = '(' then takeGroup state (skipped state.modes cs)
  else if c = ')' then
    match state.outer with
    | modes :: outer => some ({ done with modes, outer }, cs)
    | [] => none
  else if c = '|' then some ({ state with repeatable := false }, cs)
  else if c = '[' then
    if fitsLiteral state.modes then
      ((afterOpening? state.modes (skipped state.modes cs)).bind
        (afterClass? state.modes (cs.length + 1) 1)).map (done, ·)
    else none
  else if c = '*' ∨ c = '+' ∨ c = '?' then if state.repeatable then some (state, cs) else none
  else if c = '\x7b' then none
  else if c = '\\' then
    match takeEscape cs with
    | some (escape, rest) => if escape.fits state.modes then some (done, rest) else none
    | none => none
  else if c = '.' then if state.modes.unicode then some (done, cs) else none
  else if c = '^' ∨ c = '$' then some (done, cs)
  else if fitsLiteral state.modes then some (done, cs) else none

/-- Reads a pattern to its end, at which nothing is open. The bound is the number of characters. -/
def run : Nat → State → List Char → Bool
  | 0, state, cs => cs.isEmpty && state.outer.isEmpty
  | bound + 1, state, cs =>
    match skipped state.modes cs with
    | [] => state.outer.isEmpty
    | c :: rest =>
      match step? state c rest with
      | some (next, later) => run bound next later
      | none => false

def isUnderstood (cs : List Char) : Bool :=
  run (cs.length + 1) ⟨.initial, [], [], false⟩ cs

end PresenceGateway.Log.ValuePattern
