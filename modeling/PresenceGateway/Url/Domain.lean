import PresenceGateway.Text.Blank
import PresenceGateway.Text.Composition
import PresenceGateway.Text.Direction
import PresenceGateway.Text.Joining
import PresenceGateway.Url.DomainTable
import PresenceGateway.Url.Punycode
/-!
The ASCII form of domain names.

Every character is replaced by the one that stands for it, the result is composed, and each label
is checked: a label cannot start with a mark, a joiner needs letters that it joins, and when some
label is written from right to left the labels must not mix directions. A label with characters
outside ASCII is then encoded. A label that comes encoded has to decode to one that needs no
replacement.
-/
namespace PresenceGateway.Url

def isForbidden (c : Char) : Bool :=
  c.toNat ≤ 0x20 || c == '#' || c == '/' || c == ':' || c == '<' || c == '>' || c == '?'
    || c == '@' || c == '[' || c == '\\' || c == ']' || c == '^' || c == '|' || c == '%'
    || c.toNat == 0x7F

/-! ### Replacing characters -/

def standIn? (c : Char) : Option (List Char) :=
  standInRows.findSome? fun row =>
    if row.1 ≤ c.toNat ∧ c.toNat < row.1 + 40 then
      (Text.splitChars ' ' row.2.toList)[c.toNat - row.1]?
    else none

/-- What stands for a character in a domain name: none for a character that is refused. -/
def replacement? (c : Char) : Option (List Char) :=
  if c.toNat < 0x80 then some [c.toLower]
  else
    match standIn? c with
    | some cs => some cs
    | none =>
      if absentInNames.holds c then some []
      else if refusedInNames.holds c then none
      else some [c]

/-- The composed text of what stands for the characters of a name. -/
def foldName? (name : List Char) : Option (List Char) :=
  ((name.mapM replacement?).map fun parts => Text.compose parts.flatten).filter fun folded =>
    folded.all fun c => !isForbidden c

/-! ### Checking labels -/

/-- Whether the nearest character that joiners do not pass over meets a condition. -/
def meetsJoining (joins : Char → Bool) (cs : List Char) : Bool :=
  match cs.dropWhile fun c => !joins c && Text.isTransparent c with
  | [] => false
  | c :: _ => joins c

/-- Whether each joiner of a label stands where it has an effect, given the characters before,
nearest first: after a character that joins consonants, or, for the one that keeps letters apart,
between letters that would join. -/
def joinersFit (before : List Char) : List Char → Bool
  | [] => true
  | c :: rest =>
    let fits :=
      if c.toNat = 0x200C then
        before.head?.any Text.isVirama
          || (meetsJoining Text.joinsNext before && meetsJoining Text.joinsPrevious rest)
      else if c.toNat = 0x200D then before.head?.any Text.isVirama
      else true
    fits && joinersFit (c :: before) rest

/-- Whether a label keeps to one direction: it starts with a letter, holds nothing that goes the
other way, ends with a letter or a number, and has numbers of one kind only if it goes from right to
left. -/
def keepsDirection (label : List Char) : Bool :=
  let directions := label.map Text.Direction.ofChar
  let ending := directions.reverse.dropWhile (· == .mark)
  match directions with
  | [] => true
  | .leftToRight :: _ =>
    directions.all (fun d => d != .rightToLeft && d != .arabicNumber)
      && ending.head?.any fun d => d == .leftToRight || d == .europeanNumber
  | .rightToLeft :: _ =>
    directions.all (fun d => d != .leftToRight)
      && !(directions.contains .europeanNumber && directions.contains .arabicNumber)
      && ending.head?.any fun d =>
        d == .rightToLeft || d == .europeanNumber || d == .arabicNumber
  | _ => false

def isRightToLeft (label : List Char) : Bool :=
  label.any fun c =>
    Text.Direction.ofChar c == .rightToLeft || Text.Direction.ofChar c == .arabicNumber

def isLabel (label : List Char) : Bool :=
  label.head?.all (fun c => !Text.isMark c) && joinersFit [] label

/-! ### Labels and names -/

/-- A label in the form that people read and in the form that is sent. -/
structure Label where
  shown : List Char
  sent : List Char

def isAscii (c : Char) : Bool :=
  c.toNat < 0x80

def Label.decode? (payload : List Char) : Option (List Char) :=
  if payload.all isAscii && !payload.isEmpty && payload.getLast? != some '-'
      && payload.length ≤ 2000 then
    (Punycode.decode? payload).filter fun label =>
      foldName? label == some label && !label.contains '.'
  else none

def Label.ofChars? (label : List Char) : Option Label :=
  match label with
  | 'x' :: 'n' :: '-' :: '-' :: payload =>
    ((Label.decode? payload).filter isLabel).map fun shown => { shown, sent := label }
  | _ =>
    if !isLabel label then none
    else if label.all isAscii then some { shown := label, sent := label }
    else if 1000 < label.length then none
    else some {
      shown := label, sent := 'x' :: 'n' :: '-' :: '-' :: Punycode.encode label }

def asciiName? (name : List Char) : Option (List Char) := do
  let folded ← foldName? name
  let labels ← (Text.splitChars '.' folded).mapM Label.ofChars?
  if labels.any (fun label => isRightToLeft label.shown)
      && !labels.all (fun label => keepsDirection label.shown) then none
  else some (['.'].intercalate (labels.map (·.sent)))

end PresenceGateway.Url
