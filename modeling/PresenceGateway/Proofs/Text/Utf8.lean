import PresenceGateway.Text.Utf8
/-!
What is written as UTF-8 is read back, character by character. The four lengths of a written
character are the four ranges of its code point, and in each of them the bounds on the second byte
hold because a character is no surrogate and at most U+10FFFF.
-/
namespace PresenceGateway.Text.Utf8

/-! ### One character -/

theorem tails_succ {count low high bits : Nat} {b : UInt8} {rest : List UInt8}
    (within : low ≤ b.toNat ∧ b.toNat ≤ high) :
    tails (count + 1) low high bits (b :: rest) =
      tails count 0x80 0xBF (bits * 64 + (b.toNat - 0x80)) rest := by
  rw [tails, if_pos within]

theorem tails_zero (low high bits : Nat) (rest : List UInt8) :
    tails 0 low high bits rest = (some (Char.ofNat bits), rest) := by
  cases rest <;> rfl

theorem front_of_lead {b : UInt8} {lead : Lead} (found : lead? b.toNat = some lead)
    (rest : List UInt8) :
    front b rest = tails lead.following lead.low lead.high lead.bits rest := by
  have above : ¬ b.toNat < 0x80 := by
    intro below
    unfold lead? at found
    repeat rw [if_neg (by omega)] at found
    cases found
  rw [front, if_neg above, found]

theorem lead?_two {n : Nat} (low : 0x80 ≤ n) (high : n ≤ 0x7FF) :
    lead? (n / 64 + 0xC0) = some ⟨1, 0x80, 0xBF, n / 64⟩ := by
  rw [lead?, if_pos (by omega), Nat.add_sub_cancel]

theorem lead?_three {n : Nat} (low : 0x800 ≤ n) (high : n ≤ 0xFFFF)
    (noSurrogate : n < 0xD800 ∨ 0xDFFF < n) :
    ∃ first last, lead? (n / 4096 + 0xE0) = some ⟨2, first, last, n / 4096⟩ ∧
      first ≤ n / 64 % 64 + 0x80 ∧ n / 64 % 64 + 0x80 ≤ last := by
  unfold lead?
  rw [if_neg (by omega)]
  by_cases lowest : n / 4096 = 0
  · rw [lowest]
    exact ⟨0xA0, 0xBF, rfl, by omega, by omega⟩
  rw [if_neg (by omega)]
  by_cases beforeSurrogates : n / 4096 = 0xD
  · rw [beforeSurrogates]
    exact ⟨0x80, 0x9F, rfl, by omega, by omega⟩
  rw [if_neg (by omega), if_pos (by omega), Nat.add_sub_cancel]
  exact ⟨0x80, 0xBF, rfl, by omega, by omega⟩

theorem lead?_four {n : Nat} (low : 0x10000 ≤ n) (high : n < 0x110000) :
    ∃ first last, lead? (n / 262144 + 0xF0) = some ⟨3, first, last, n / 262144⟩ ∧
      first ≤ n / 4096 % 64 + 0x80 ∧ n / 4096 % 64 + 0x80 ≤ last := by
  unfold lead?
  repeat rw [if_neg (by omega)]
  by_cases lowest : n / 262144 = 0
  · rw [lowest]
    exact ⟨0x90, 0xBF, rfl, by omega, by omega⟩
  rw [if_neg (by omega)]
  by_cases highest : n / 262144 = 4
  · rw [highest]
    exact ⟨0x80, 0x8F, rfl, by omega, by omega⟩
  rw [if_neg (by omega), if_pos (by omega), Nat.add_sub_cancel]
  exact ⟨0x80, 0xBF, rfl, by omega, by omega⟩

/-- A written character is read back, and what follows it is left. -/
theorem front_utf8EncodeChar (c : Char) :
    ∃ b more, String.utf8EncodeChar c = b :: more ∧
      ∀ rest, front b (more ++ rest) = (some c, rest) := by
  obtain ⟨n, code⟩ : ∃ n, c.val.toNat = n := ⟨_, rfl⟩
  have same : Char.ofNat n = c := code ▸ Char.ofNat_toNat c
  have valid : n < 0xD800 ∨ (0xDFFF < n ∧ n < 0x110000) := code ▸ c.valid
  have byte {m : Nat} (small : m < 256) : (UInt8.ofNat m).toNat = m :=
    UInt8.toNat_ofNat_of_lt small
  have last := byte (show n % 64 + 0x80 < 256 by omega)
  simp only [String.utf8EncodeChar, code]
  by_cases one : n ≤ 0x7F
  · rw [if_pos one]
    refine ⟨_, _, rfl, fun rest => ?_⟩
    rw [front, byte (by omega), if_pos (by omega), same, List.nil_append]
  rw [if_neg one]
  by_cases two : n ≤ 0x7FF
  · rw [if_pos two]
    refine ⟨_, _, rfl, fun rest => ?_⟩
    have lead : (UInt8.ofNat (n / 64 % 32 + 0xC0)).toNat = n / 64 + 0xC0 := by
      rw [byte (by omega)]
      omega
    rw [front_of_lead (lead ▸ lead?_two (by omega) two), List.cons_append, List.nil_append]
    dsimp only
    rw [tails_succ (by omega), tails_zero, last]
    have whole : n / 64 * 64 + (n % 64 + 0x80 - 0x80) = n := by omega
    rw [whole, same]
  rw [if_neg two]
  have third := byte (show n / 64 % 64 + 0x80 < 256 by omega)
  by_cases three : n ≤ 0xFFFF
  · rw [if_pos three]
    refine ⟨_, _, rfl, fun rest => ?_⟩
    have lead : (UInt8.ofNat (n / 4096 % 16 + 0xE0)).toNat = n / 4096 + 0xE0 := by
      rw [byte (by omega)]
      omega
    obtain ⟨low, high, found, atLeast, atMost⟩ := lead?_three (by omega) three (by omega)
    rw [front_of_lead (lead ▸ found), List.cons_append, List.cons_append, List.nil_append]
    dsimp only
    rw [tails_succ (by omega), tails_succ (by omega), tails_zero, last, third]
    have whole : (n / 4096 * 64 + (n / 64 % 64 + 0x80 - 0x80)) * 64 + (n % 64 + 0x80 - 0x80) =
        n := by
      omega
    rw [whole, same]
  rw [if_neg three]
  have second := byte (show n / 4096 % 64 + 0x80 < 256 by omega)
  refine ⟨_, _, rfl, fun rest => ?_⟩
  have lead : (UInt8.ofNat (n / 262144 % 8 + 0xF0)).toNat = n / 262144 + 0xF0 := by
    rw [byte (by omega)]
    omega
  obtain ⟨low, high, found, atLeast, atMost⟩ := lead?_four (n := n) (by omega) (by omega)
  rw [front_of_lead (lead ▸ found), List.cons_append, List.cons_append, List.cons_append,
    List.nil_append]
  dsimp only
  rw [tails_succ (by omega), tails_succ (by omega), tails_succ (by omega), tails_zero, last, third,
    second]
  have whole : ((n / 262144 * 64 + (n / 4096 % 64 + 0x80 - 0x80)) * 64 +
      (n / 64 % 64 + 0x80 - 0x80)) * 64 + (n % 64 + 0x80 - 0x80) = n := by omega
  rw [whole, same]

/-! ### Texts -/

theorem decodeOnto_flatMap (done cs : List Char) :
    decodeOnto done (cs.flatMap String.utf8EncodeChar) = some (done.reverse ++ cs) := by
  induction cs generalizing done with
  | nil =>
      rw [List.flatMap_nil, decodeOnto, List.append_nil]
  | cons c rest ih =>
      obtain ⟨b, more, written, read⟩ := front_utf8EncodeChar c
      rw [List.flatMap_cons, written, List.cons_append, decodeOnto]
      simp only [read]
      rw [ih, List.reverse_cons, List.append_assoc, List.singleton_append]

theorem decode?_encode (text : String) : decode? (encode text) = some text := by
  rw [decode?, encode, decodeOnto_flatMap, List.reverse_nil, List.nil_append, Option.map_some,
    String.ofList_toList]

theorem decodeLossyOnto_flatMap (done cs : List Char) :
    decodeLossyOnto done (cs.flatMap String.utf8EncodeChar) = done.reverse ++ cs := by
  induction cs generalizing done with
  | nil =>
      rw [List.flatMap_nil, decodeLossyOnto, List.append_nil]
  | cons c rest ih =>
      obtain ⟨b, more, written, read⟩ := front_utf8EncodeChar c
      rw [List.flatMap_cons, written, List.cons_append, decodeLossyOnto]
      simp only [read]
      rw [ih, Option.getD_some, List.reverse_cons, List.append_assoc, List.singleton_append]

theorem decodeLossy_encode (text : String) : decodeLossy (encode text) = text := by
  rw [decodeLossy, encode, decodeLossyOnto_flatMap, List.reverse_nil, List.nil_append,
    String.ofList_toList]

theorem utf8EncodeChar_of_ascii {c : Char} (ascii : c.toNat < 0x80) :
    String.utf8EncodeChar c = [UInt8.ofNat c.toNat] := by
  have small : c.val.toNat ≤ 0x7F := Nat.le_of_lt_succ ascii
  rw [String.utf8EncodeChar]
  simp only [small, if_true]
  rfl

end PresenceGateway.Text.Utf8
