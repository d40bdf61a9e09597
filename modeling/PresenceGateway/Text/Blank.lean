/-!
Sets of code points, white space, trimming and splitting.

Properties of characters are given as closed ranges, as version 17 of the Unicode Character Database
has them.

A text is trimmed of the 25 code points of the White_Space property, and a list of items is cut at
every separator, so that a text with `n` separators always has `n + 1` items.
-/
namespace PresenceGateway.Text

abbrev CodeSet := List (Nat × Nat)

def CodeSet.holds (set : CodeSet) (c : Char) : Bool :=
  set.any fun range => range.1 ≤ c.toNat && c.toNat ≤ range.2

def isBlank (c : Char) : Bool :=
  let n := c.toNat
  (9 ≤ n && n ≤ 13) || n == 0x20 || n == 0x85 || n == 0xA0 || n == 0x1680
    || (0x2000 ≤ n && n ≤ 0x200A) || n == 0x2028 || n == 0x2029 || n == 0x202F
    || n == 0x205F || n == 0x3000

def trimChars (cs : List Char) : List Char :=
  ((cs.dropWhile isBlank).reverse.dropWhile isBlank).reverse

def trim (text : String) : String :=
  String.ofList (trimChars text.toList)

/-- Whether a text holds blanks only. The empty text does. -/
def isBlankText (text : String) : Bool :=
  text.toList.all isBlank

/-- The items between separators. There is always at least one, and an item may be empty. -/
def splitChars (separator : Char) (cs : List Char) : List (List Char) :=
  let step := fun (c : Char) (items : List (List Char)) =>
    match items with
    | [] => [[c]]
    | item :: later => if c = separator then [] :: item :: later else (c :: item) :: later
  cs.foldr step [[]]

def split (separator : Char) (text : String) : List String :=
  (splitChars separator text.toList).map String.ofList

def cutChars (separator : Char) (cs : List Char) : List Char × Option (List Char) :=
  match cs.dropWhile (· ≠ separator) with
  | [] => (cs.takeWhile (· ≠ separator), none)
  | _ :: rest => (cs.takeWhile (· ≠ separator), some rest)

def hexDigit? (c : Char) : Option Nat :=
  let n := c.toNat
  if 48 ≤ n && n ≤ 57 then some (n - 48)
  else if 97 ≤ n && n ≤ 102 then some (n - 87)
  else if 65 ≤ n && n ≤ 70 then some (n - 55)
  else none

def hexadecimal (n : Nat) : String :=
  String.ofList (Nat.toDigits 16 n)

def asciiLower (text : String) : String :=
  text.map Char.toLower

end PresenceGateway.Text
