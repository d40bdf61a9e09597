/-!
Punycode: a label of any characters as letters, digits and hyphens.

The ASCII characters come first, then the others as differences between ascending code points, each
a number of variable length whose digits adapt to the size of the differences before it.
-/
namespace PresenceGateway.Punycode

def digitChar (d : Nat) : Char :=
  if d < 26 then Char.ofNat (0x61 + d) else Char.ofNat (0x30 + d - 26)

def digitValue? (c : Char) : Option Nat :=
  let n := c.toNat
  if 0x61 ≤ n ∧ n ≤ 0x7A then some (n - 0x61)
  else if 0x41 ≤ n ∧ n ≤ 0x5A then some (n - 0x41)
  else if 0x30 ≤ n ∧ n ≤ 0x39 then some (n - 0x30 + 26)
  else none

/-- The least digit value that ends a number, at a position that counts in steps of 36. -/
def threshold (position bias : Nat) : Nat :=
  if position ≤ bias + 1 then 1
  else if bias + 26 ≤ position then 26
  else position - bias

theorem threshold_bounds (position bias : Nat) :
    1 ≤ threshold position bias ∧ threshold position bias ≤ 26 := by
  unfold threshold
  split
  · omega
  · split <;> omega

def settle (delta steps : Nat) : Nat × Nat :=
  if 455 < delta then settle (delta / 35) (steps + 36) else (delta, steps)
termination_by delta
decreasing_by omega

/-- The bias after a difference, given how many characters are placed by then. -/
def adapt (delta count : Nat) (first : Bool) : Nat :=
  let halved := if first then delta / 700 else delta / 2
  let (settled, steps) := settle (halved + halved / count) 0
  steps + 36 * settled / (settled + 38)

def encodeNumber (bias position value : Nat) : List Char :=
  let t := threshold position bias
  if value < t then [digitChar value]
  else
    digitChar (t + (value - t) % (36 - t))
      :: encodeNumber bias (position + 36) ((value - t) / (36 - t))
termination_by value
decreasing_by
  have := threshold_bounds position bias
  have := Nat.div_le_self (value - threshold position bias) (36 - threshold position bias)
  omega

/-- An encoder that has placed every character below some code point. -/
structure Encoder where
  digits : List Char
  delta : Nat
  bias : Nat
  placed : Nat

def Encoder.see (basic current : Nat) (encoder : Encoder) (c : Char) : Encoder :=
  if c.toNat < current then { encoder with delta := encoder.delta + 1 }
  else if c.toNat = current then
    { digits := encoder.digits ++ encodeNumber encoder.bias 36 encoder.delta
      delta := 0
      bias := adapt encoder.delta (encoder.placed + 1) (encoder.placed == basic)
      placed := encoder.placed + 1 }
  else encoder

/-- Places the characters of each code point in turn. `next` is the first code point that is not
placed yet. -/
def encodeFrom (label : List Char) (basic next : Nat) (encoder : Encoder) : List Nat → Encoder
  | [] => encoder
  | current :: later =>
    let skipped := { encoder with
      delta := encoder.delta + (current - next) * (encoder.placed + 1) }
    let done := label.foldl (Encoder.see basic current) skipped
    encodeFrom label basic (current + 1) { done with delta := done.delta + 1 } later

def insertOnce (n : Nat) : List Nat → List Nat
  | [] => [n]
  | m :: rest =>
    if n < m then n :: m :: rest else if n = m then m :: rest else m :: insertOnce n rest

def encode (label : List Char) : List Char :=
  let basic := label.filter fun c => c.toNat < 0x80
  let others := (label.filter fun c => 0x80 ≤ c.toNat).foldl
    (fun points c => insertOnce c.toNat points) []
  let start : Encoder := { digits := [], delta := 0, bias := 72, placed := basic.length }
  let done := encodeFrom label basic.length 0x80 start others
  (if basic.isEmpty then [] else basic ++ ['-']) ++ done.digits

def decodeNumber (bias : Nat) : Nat → Nat → Nat → List Char → Option (Nat × List Char)
  | _, _, _, [] => none
  | position, weight, value, c :: rest =>
    match digitValue? c with
    | none => none
    | some digit =>
      let value := value + digit * weight
      let t := threshold position bias
      if digit < t then some (value, rest)
      else decodeNumber bias (position + 36) (weight * (36 - t)) value rest

/-- Reads differences and puts the characters that they stand for into place. The bound is the
number of digits. -/
def decodeFrom (basic : Nat) : Nat → List Char → Nat → Nat → Nat → List Char → Option (List Char)
  | _, label, _, _, _, [] => some label
  | 0, _, _, _, _, _ :: _ => none
  | bound + 1, label, point, place, bias, digits =>
    match decodeNumber bias 36 1 0 digits with
    | none => none
    | some (delta, rest) =>
      let size := label.length + 1
      let position := place + delta
      let point := point + position / size
      if point.isValidChar then
        let place := position % size
        decodeFrom basic bound (label.take place ++ Char.ofNat point :: label.drop place) point
          (place + 1) (adapt delta size (label.length == basic)) rest
      else none

/-- The label of letters, digits and hyphens. A hyphen that ends the ASCII characters needs some
before it. -/
def decode? (text : List Char) : Option (List Char) :=
  let reversed := text.reverse
  let digits := (reversed.takeWhile (· ≠ '-')).reverse
  match reversed.dropWhile (· ≠ '-') with
  | [_] => none
  | front =>
    let basic := (front.drop 1).reverse
    decodeFrom basic.length digits.length basic 0x80 0 72 digits

end PresenceGateway.Punycode
