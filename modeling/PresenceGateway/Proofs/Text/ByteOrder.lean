import PresenceGateway.Proofs.Text.Utf8
/-!
The order of texts is the order of their bytes. A character with a larger code point is written with
no fewer bytes, and at the first byte in which two characters differ, the larger one has the larger
byte.
-/
namespace PresenceGateway.Text.Utf8

theorem byte_lt {a b : Nat} {rest later : List UInt8} (less : a < b) (fits : b < 256) :
    UInt8.ofNat a :: rest < UInt8.ofNat b :: later := by
  apply List.cons_lt_cons_iff.mpr
  left
  rw [UInt8.lt_iff_toNat_lt, UInt8.toNat_ofNat_of_lt' fits,
    UInt8.toNat_ofNat_of_lt' (Nat.lt_trans less fits)]
  exact less

theorem byte_cons_lt {a b : Nat} {rest later : List UInt8} (le : a ≤ b) (fits : b < 256)
    (next : a = b → rest < later) : UInt8.ofNat a :: rest < UInt8.ofNat b :: later := by
  rcases Nat.lt_or_eq_of_le le with less | same
  · exact byte_lt less fits
  · rw [same]
    exact List.cons_lt_cons_iff.mpr (.inr ⟨rfl, next same⟩)

/-- Of two characters the one with the smaller code point comes first, whatever follows. -/
theorem utf8EncodeChar_append_lt {c d : Char} (less : c < d) (rest later : List UInt8) :
    String.utf8EncodeChar c ++ rest < String.utf8EncodeChar d ++ later := by
  obtain ⟨m, first⟩ : ∃ m, c.val.toNat = m := ⟨_, rfl⟩
  obtain ⟨n, second⟩ : ∃ n, d.val.toNat = n := ⟨_, rfl⟩
  have smaller : m < n := first ▸ second ▸ UInt32.lt_iff_toNat_lt.mp less
  have bound : n < 0x110000 := by
    have valid : d.val.toNat < 0xD800 ∨ (0xDFFF < d.val.toNat ∧ d.val.toNat < 0x110000) := d.valid
    omega
  simp only [String.utf8EncodeChar, first, second]
  -- with the same number of bytes the digits to base 64 are compared; with fewer, the leading bytes
  by_cases one : n ≤ 0x7F
  · rw [if_pos (show m ≤ 0x7F by omega), if_pos one]
    exact byte_lt (by omega) (by omega)
  rw [if_neg one]
  by_cases firstOne : m ≤ 0x7F
  · rw [if_pos firstOne]
    by_cases two : n ≤ 0x7FF
    · rw [if_pos two]
      exact byte_lt (by omega) (by omega)
    rw [if_neg two]
    by_cases three : n ≤ 0xFFFF
    · rw [if_pos three]
      exact byte_lt (by omega) (by omega)
    rw [if_neg three]
    exact byte_lt (by omega) (by omega)
  rw [if_neg firstOne]
  by_cases two : n ≤ 0x7FF
  · rw [if_pos (show m ≤ 0x7FF by omega), if_pos two]
    exact byte_cons_lt (by omega) (by omega) fun _ =>
      byte_lt (by omega) (by omega)
  rw [if_neg two]
  by_cases firstTwo : m ≤ 0x7FF
  · rw [if_pos firstTwo]
    by_cases three : n ≤ 0xFFFF
    · rw [if_pos three]
      exact byte_lt (by omega) (by omega)
    rw [if_neg three]
    exact byte_lt (by omega) (by omega)
  rw [if_neg firstTwo]
  by_cases three : n ≤ 0xFFFF
  · rw [if_pos (show m ≤ 0xFFFF by omega), if_pos three]
    exact byte_cons_lt (by omega) (by omega) fun _ =>
      byte_cons_lt (by omega) (by omega) fun _ =>
        byte_lt (by omega) (by omega)
  rw [if_neg three]
  by_cases firstThree : m ≤ 0xFFFF
  · rw [if_pos firstThree]
    exact byte_lt (by omega) (by omega)
  rw [if_neg firstThree]
  exact byte_cons_lt (by omega) (by omega) fun _ =>
    byte_cons_lt (by omega) (by omega) fun _ =>
      byte_cons_lt (by omega) (by omega) fun _ =>
        byte_lt (by omega) (by omega)

theorem flatMap_utf8EncodeChar_lt {first second : List Char} (less : first < second) :
    first.flatMap String.utf8EncodeChar < second.flatMap String.utf8EncodeChar := by
  induction first generalizing second with
  | nil =>
      cases second with
      | nil => exact absurd less (List.lt_irrefl _)
      | cons d later =>
          obtain ⟨b, more, bytes, _⟩ := front_utf8EncodeChar d
          rw [List.flatMap_nil, List.flatMap_cons, bytes]
          exact List.nil_lt_cons _ _
  | cons c rest ih =>
      cases second with
      | nil => exact absurd less (List.not_lt_nil _)
      | cons d later =>
          rw [List.flatMap_cons, List.flatMap_cons]
          rcases List.cons_lt_cons_iff.mp less with smaller | ⟨rfl, same⟩
          · exact utf8EncodeChar_append_lt smaller _ _
          · exact List.append_left_lt (ih same)

theorem encode_lt_encode_iff (first second : String) :
    encode first < encode second ↔ first < second := by
  have forward {first second : String} (less : first < second) : encode first < encode second :=
    flatMap_utf8EncodeChar_lt (String.lt_iff.mp less)
  refine ⟨fun less => ?_, forward⟩
  apply Decidable.byContradiction
  intro notBefore
  by_cases same : first = second
  · exact List.lt_irrefl _ (same ▸ less)
  · have after : second < first := by
      apply Decidable.byContradiction
      intro notAfter
      exact same (String.le_antisymm notAfter notBefore)
    exact List.lt_irrefl _ (List.lt_trans less (forward after))

end PresenceGateway.Text.Utf8
