/-!
UTF-8, read byte by byte.

`front` reads one character off a byte sequence or says how much of it cannot be read. Two readings
are built on it: `decode?` accepts well-formed sequences only, and `decodeLossy` puts one
replacement character for each longest unreadable run that a well-formed sequence could begin with.
-/
namespace PresenceGateway.Text.Utf8

def encode (text : String) : List UInt8 :=
  text.toList.flatMap String.utf8EncodeChar

/-- What a leading byte announces: how many bytes follow, the bounds of the first of them, and the
bits that the leading byte contributes. -/
structure Lead where
  following : Nat
  low : Nat
  high : Nat
  bits : Nat

def lead? (b : Nat) : Option Lead :=
  if 0xC2 ≤ b ∧ b ≤ 0xDF then some ⟨1, 0x80, 0xBF, b - 0xC0⟩
  else if b = 0xE0 then some ⟨2, 0xA0, 0xBF, 0⟩
  else if b = 0xED then some ⟨2, 0x80, 0x9F, 0xD⟩
  else if 0xE1 ≤ b ∧ b ≤ 0xEF then some ⟨2, 0x80, 0xBF, b - 0xE0⟩
  else if b = 0xF0 then some ⟨3, 0x90, 0xBF, 0⟩
  else if b = 0xF4 then some ⟨3, 0x80, 0x8F, 4⟩
  else if 0xF1 ≤ b ∧ b ≤ 0xF3 then some ⟨3, 0x80, 0xBF, b - 0xF0⟩
  else none

/-- The bytes that finish a character, given the bounds of the next one. The second component is
what is left, starting at the first byte that does not fit. -/
def tails : Nat → Nat → Nat → Nat → List UInt8 → Option Char × List UInt8
  | 0, _, _, bits, rest => (some (Char.ofNat bits), rest)
  | _ + 1, _, _, _, [] => (none, [])
  | count + 1, low, high, bits, b :: rest =>
    if low ≤ b.toNat ∧ b.toNat ≤ high then
      tails count 0x80 0xBF (bits * 64 + (b.toNat - 0x80)) rest
    else (none, b :: rest)

def front (b : UInt8) (rest : List UInt8) : Option Char × List UInt8 :=
  if b.toNat < 0x80 then (some (Char.ofNat b.toNat), rest)
  else match lead? b.toNat with
    | none => (none, rest)
    | some lead => tails lead.following lead.low lead.high lead.bits rest

theorem tails_length (count low high bits : Nat) (rest : List UInt8) :
    (tails count low high bits rest).2.length ≤ rest.length := by
  induction rest generalizing count low high bits with
  | nil => cases count <;> simp [tails]
  | cons b rest ih =>
    cases count with
    | zero => simp [tails]
    | succ count =>
      simp only [tails]
      split
      · exact Nat.le_succ_of_le (ih ..)
      · exact Nat.le_refl _

theorem front_length (b : UInt8) (rest : List UInt8) :
    (front b rest).2.length ≤ rest.length := by
  unfold front
  split
  · exact Nat.le_refl _
  · split
    · exact Nat.le_refl _
    · exact tails_length ..

/-- Reads characters into `done`, last first, until the bytes end or one cannot be read. -/
def decodeOnto (done : List Char) (bytes : List UInt8) : Option (List Char) :=
  match bytes with
  | [] => some done.reverse
  | b :: rest =>
    match (front b rest).1 with
    | some c => decodeOnto (c :: done) (front b rest).2
    | none => none
termination_by bytes.length
decreasing_by exact Nat.lt_succ_of_le (front_length b rest)

def decode? (bytes : List UInt8) : Option String :=
  (decodeOnto [] bytes).map String.ofList

/-- Where a byte sequence stops being well formed, after so many bytes, and how many bytes there cannot
begin a character. There is no such number when the sequence ends too early. -/
def faultAfter (count : Nat) (bytes : List UInt8) : Option (Nat × Option Nat) :=
  match bytes with
  | [] => none
  | b :: rest =>
    let size := bytes.length - (front b rest).2.length
    match (front b rest).1 with
    | some _ => faultAfter (count + size) (front b rest).2
    | none =>
      let cut := (lead? b.toNat).isSome && (front b rest).2.isEmpty
      some (count, if cut then none else some size)
termination_by bytes.length
decreasing_by exact Nat.lt_succ_of_le (front_length b rest)

def fault? (bytes : List UInt8) : Option (Nat × Option Nat) :=
  faultAfter 0 bytes

/-- Reads characters into `done`, last first, with a replacement for what cannot be read. -/
def decodeLossyOnto (done : List Char) (bytes : List UInt8) : List Char :=
  match bytes with
  | [] => done.reverse
  | b :: rest =>
    decodeLossyOnto ((front b rest).1.getD '\uFFFD' :: done) (front b rest).2
termination_by bytes.length
decreasing_by exact Nat.lt_succ_of_le (front_length b rest)

/-- The text of a byte sequence, with U+FFFD for each part that is not well formed. -/
def decodeLossy (bytes : List UInt8) : String :=
  String.ofList (decodeLossyOnto [] bytes)

end PresenceGateway.Text.Utf8
