import PresenceGateway.Json.MergePatch
/-!
Relaxed JSON, as the table of devices reads it.

Beside JSON this is text with comments, more blanks, commas before a closing bracket, strings between
single quotes, more escapes, keys without quotes and more ways to write numbers. What is read is kept
in the form in which it is written again: without blanks, and in the grammar of JSON but for a double
quote that stood between single ones. A text ends before its first NUL.

Reading has two steps, from characters to tokens and from tokens to an outline.
-/
namespace PresenceGateway.Json.Relaxed

/-! ### Blanks and comments -/

def isBlank (c : Char) : Bool :=
  let n := c.toNat
  (0x09 ≤ n && n ≤ 0x0D) || n == 0x20 || n == 0xA0 || n == 0x1680 || (0x2000 ≤ n && n ≤ 0x200A)
    || n == 0x2028 || n == 0x2029 || n == 0x202F || n == 0x205F || n == 0x3000 || n == 0xFEFF

def isSeparator (c : Char) : Bool :=
  c.toNat == 0x2028 || c.toNat == 0x2029

def endsLine (c : Char) : Bool :=
  c == '\n' || c == '\r' || isSeparator c

def afterBlock? : List Char → Option (List Char)
  | [] => none
  | '*' :: '/' :: cs => some cs
  | _ :: cs => afterBlock? cs

def afterLine (cs : List Char) : List Char :=
  (cs.dropWhile fun c => !endsLine c).drop 1

/-! ### Strings and names -/

/-- A key or a string: its characters as they stand, and whether they stand between single quotes.
Two keys are the same when both agree, so no key between single quotes is one between double quotes. -/
structure Label where
  single : Bool
  raw : List Char
deriving DecidableEq

def isHexDigit (c : Char) : Bool :=
  c.isDigit || ('a' ≤ c && c ≤ 'f') || ('A' ≤ c && c ≤ 'F')

def hasHexDigits (count : Nat) (cs : List Char) : Bool :=
  (cs.takeWhile isHexDigit).length ≥ count

def quoteCode : Nat := 0x27

/-- Whether a character may follow a backslash, before the characters `cs`. -/
def escapes (c : Char) (cs : List Char) : Bool :=
  c ∈ ['"', '\\', '/', 'b', 'f', 'n', 'r', 't', '0', 'v', '\n', '\r'] || c.toNat == quoteCode
    || isSeparator c || (c == 'u' && hasHexDigits 4 cs) || (c == 'x' && hasHexDigits 2 cs)

def takeInside (quote : Char) (done : List Char) : List Char → Option (List Char × List Char)
  | [] => none
  | ['\\'] => none
  | '\\' :: '\r' :: '\n' :: cs => takeInside quote ('\n' :: '\r' :: '\\' :: done) cs
  | '\\' :: c :: cs =>
    if escapes c cs then takeInside quote (c :: '\\' :: done) cs else none
  | c :: cs =>
    if c = quote then some (done.reverse, cs)
    else if c.toNat < 0x20 then none
    else takeInside quote (c :: done) cs

/-- The inside of a string in plain JSON. A line that goes on after a backslash is joined, and
escapes that JSON lacks are replaced. -/
def plainInside : List Char → List Char
  | [] => []
  | '\\' :: '\r' :: '\n' :: cs => plainInside cs
  | '\\' :: c :: cs =>
    if endsLine c then plainInside cs
    else if c.toNat = quoteCode then c :: plainInside cs
    else if c = 'v' then "\\u0009".toList ++ plainInside cs
    else if c = '0' then "\\u0000".toList ++ plainInside cs
    else if c = 'x' then "\\u00".toList ++ plainInside cs
    else '\\' :: c :: plainInside cs
  | c :: cs => c :: plainInside cs

def Label.chars (label : Label) : List Char :=
  '"' :: (plainInside label.raw ++ ['"'])

def beginsName (c : Char) : Bool :=
  c.isAlpha || c == '$' || c == '_' || 0x80 ≤ c.toNat

/-- Reads a name: characters that may begin one, digits, and escaped UTF-16 units. The characters read
so far are in `done`, last first. -/
def takeName (done : List Char) : List Char → List Char × List Char
  | [] => (done.reverse, [])
  | c :: cs =>
    if (beginsName c || c.isDigit) && !isBlank c then takeName (c :: done) cs
    else if c = '\\' && cs.head? = some 'u' && hasHexDigits 4 (cs.drop 1) then takeName (c :: done) cs
    else (done.reverse, c :: cs)

/-! ### Numbers and words -/

def infinite : List Char := "9.0e999".toList

def hexValue (digits : List Char) : Nat :=
  digits.foldl (fun n c =>
    n * 16 + (if c.isDigit then c.toNat - 0x30 else c.toNat % 0x20 + 9)) 0

/-- A number of hexadecimal digits as it is written again: as an integer of 64 bits with a sign, or
beyond all others if it has more bits. -/
def hexadecimal (digits : List Char) : List Char :=
  if (digits.dropWhile (· = '0')).length ≤ 16 then
    let n := hexValue digits
    let value : Int := if n < 0x8000000000000000 then n else (n : Int) - 0x10000000000000000
    (toString value).toList
  else infinite

def takeExponent? (cs : List Char) : Option (List Char × List Char) :=
  match cs with
  | mark :: later =>
    if mark = 'e' ∨ mark = 'E' then
      let sign := later.take 1 |>.filter fun c => c = '+' ∨ c = '-'
      let unsigned := later.drop sign.length
      let digits := unsigned.takeWhile Char.isDigit
      if digits.isEmpty then none else some (mark :: sign ++ digits, unsigned.dropWhile Char.isDigit)
    else some ([], cs)
  | [] => some ([], [])

/-- Reads a number without its sign in decimal digits, of which there is at least one. Digits that
are missing on one side of the point are written as a zero. -/
def takeDecimal? (cs : List Char) : Option (List Char × List Char) :=
  let whole := cs.takeWhile Char.isDigit
  let shown := if whole.isEmpty then ['0'] else whole
  match cs.dropWhile Char.isDigit with
  | '.' :: later =>
    let fraction := later.takeWhile Char.isDigit
    if whole.isEmpty && fraction.isEmpty then none
    else (takeExponent? (later.dropWhile Char.isDigit)).map fun found =>
      (shown ++ '.' :: (if fraction.isEmpty then ['0'] else fraction) ++ found.1, found.2)
  | later =>
    if whole.isEmpty then none
    else (takeExponent? later).map fun found => (shown ++ found.1, found.2)

def takeUnsigned? (cs : List Char) : Option (List Char × List Char) :=
  match cs with
  | '0' :: c :: later =>
    if c.isDigit then none
    else if (c = 'x' ∨ c = 'X') ∧ hasHexDigits 1 later then
      some (hexadecimal (later.takeWhile isHexDigit), later.dropWhile isHexDigit)
    else takeDecimal? cs
  | _ => takeDecimal? cs

/-- What follows a word in any case of its letters, if a text begins with it. -/
def afterWord? (word : String) (cs : List Char) : Option (List Char) :=
  if (cs.take word.length).map Char.toLower = word.toList then some (cs.drop word.length) else none

def takeSigned? (sign : List Char) (cs : List Char) : Option (List Char × List Char) :=
  match afterWord? "infinity" cs <|> afterWord? "inf" cs with
  | some later => some (sign ++ infinite, later)
  | none => (takeUnsigned? cs).map fun found => (sign ++ found.1, found.2)

inductive Scalar where
  | null
  | chars (text : List Char)

def words : List (String × Bool × Scalar) :=
  [("true", false, .chars "true".toList), ("false", false, .chars "false".toList),
    ("null", false, .null), ("inf", true, .chars infinite), ("infinity", true, .chars infinite),
    ("nan", true, .null), ("qnan", true, .null), ("snan", true, .null)]

/-- Reads a word that is a value and is not followed by a letter or a digit. -/
def takeWord? (cs : List Char) : Option (Scalar × List Char) :=
  words.findSome? fun (word, anyCase, scalar) =>
    let later := cs.drop word.length
    let front := cs.take word.length
    let same := (if anyCase then front.map Char.toLower else front) = word.toList
    if same && !(later.head?.any Char.isAlphanum) then some (scalar, later) else none

/-! ### Tokens -/

inductive Token where
  | beginArray | endArray | beginObject | endObject | colon | comma
  | scalar (value : Scalar)
  | string (label : Label)
  | name (label : Label)

def Token.take? (c : Char) (cs : List Char) : Option (Token × List Char) :=
  if c = '[' then some (.beginArray, cs)
  else if c = ']' then some (.endArray, cs)
  else if c = '\x7b' then some (.beginObject, cs)
  else if c = '\x7d' then some (.endObject, cs)
  else if c = ':' then some (.colon, cs)
  else if c = ',' then some (.comma, cs)
  else if c = '"' ∨ c.toNat = quoteCode then
    (takeInside c [] cs).map fun found => (.string ⟨c ≠ '"', found.1⟩, found.2)
  else if c = '+' then (takeSigned? [] cs).map fun found => (.scalar (.chars found.1), found.2)
  else if c = '-' then (takeSigned? ['-'] cs).map fun found => (.scalar (.chars found.1), found.2)
  else if c.isDigit ∨ c = '.' then
    (takeUnsigned? (c :: cs)).map fun found => (.scalar (.chars found.1), found.2)
  else match takeWord? (c :: cs) with
    | some (value, later) => some (.scalar value, later)
    | none =>
      match takeName [] (c :: cs) with
      | ([], _) => none
      | (raw, later) => some (.name ⟨false, raw⟩, later)

/-- Reads tokens into `done`, last first, until the text ends. The bound is the number of characters:
every step takes at least one. -/
def Token.readOnto : Nat → List Token → List Char → Option (List Token)
  | _, done, [] => some done.reverse
  | 0, _, _ :: _ => none
  | bound + 1, done, c :: cs =>
    if isBlank c then readOnto bound done cs
    else match c, cs with
      | '/', '*' :: later => (afterBlock? later).bind (readOnto bound done)
      | '/', '/' :: later => readOnto bound done (afterLine later)
      | _, _ =>
        match Token.take? c cs with
        | some (token, later) => readOnto bound (token :: done) later
        | none => none

/-! ### Outlines -/

/-- The outline of a relaxed text: an array is a leaf, since no merge looks into it. -/
abbrev Outline := Json.Outline Label (List Char)

mutual

def chars : Outline → List Char
  | .null => "null".toList
  | .leaf text => text
  | .object members => '\x7b' :: (List.intercalate [','] (memberChars members) ++ ['\x7d'])

def memberChars : List (Label × Outline) → List (List Char)
  | [] => []
  | (label, value) :: rest => (label.chars ++ ':' :: chars value) :: memberChars rest

end

/-- An array or an object that is still open: what it holds so far, last first, and for an object the
key of the member being read. -/
inductive Open where
  | array (done : List (List Char))
  | object (done : List (Label × Outline)) (key : Label)

/-- What may come next: a value; an item or the end of an array; a member or the end of an object; the
colon after a key; a comma or an end; or nothing any more. -/
inductive Expected where
  | value
  | item (done : List (List Char))
  | member (done : List (Label × Outline))
  | colon (done : List (Label × Outline)) (key : Label)
  | more (finished : Outline)

def maxDepth : Nat := 1000

def begin? (opened : List Open) : Token → Option (Expected × List Open)
  | .scalar .null => some (.more .null, opened)
  | .scalar (.chars text) => some (.more (.leaf text), opened)
  | .string label => some (.more (.leaf label.chars), opened)
  | .beginArray => if opened.length < maxDepth then some (.item [], opened) else none
  | .beginObject => if opened.length < maxDepth then some (.member [], opened) else none
  | _ => none

def step? (opened : List Open) : Expected → Token → Option (Expected × List Open)
  | .value, token => begin? opened token
  | .item done, .endArray =>
    some (.more (.leaf ('[' :: (List.intercalate [','] done.reverse ++ [']']))), opened)
  | .item done, token => begin? (.array done :: opened) token
  | .member done, .endObject => some (.more (.object done.reverse), opened)
  | .member done, .string key => some (.colon done key, opened)
  | .member done, .name key => some (.colon done key, opened)
  | .member _, _ => none
  | .colon done key, .colon => some (.value, .object done key :: opened)
  | .colon _ _, _ => none
  | .more finished, token =>
    match opened, token with
    | .array done :: outer, .comma => some (.item (chars finished :: done), outer)
    | .array done :: outer, .endArray =>
      some (.more (.leaf ('[' :: (List.intercalate [','] (chars finished :: done).reverse ++ [']']))),
        outer)
    | .object done key :: outer, .comma => some (.member ((key, finished) :: done), outer)
    | .object done key :: outer, .endObject =>
      some (.more (.object ((key, finished) :: done).reverse), outer)
    | _, _ => none

def run (expected : Expected) (opened : List Open) : List Token → Option Outline
  | [] =>
    match expected, opened with
    | .more finished, [] => some finished
    | _, _ => none
  | token :: rest =>
    match step? opened expected token with
    | some (next, later) => run next later rest
    | none => none

def read? (text : String) : Option Outline :=
  let cs := text.toList.takeWhile fun c => c.toNat ≠ 0
  (Token.readOnto cs.length [] cs).bind (run .value [])

end PresenceGateway.Json.Relaxed
