import Mathlib.Algebra.Group.Nat.Defs
import Mathlib.Tactic.Ring
import PresenceGateway.Decimal.Binary64
/-!
Rounding to binary64 numbers.

A quotient of at least `2 ^ 52` units is rounded to one that is relatively off by at most `2 ^ (-53)`,
and there is a number for it unless it is too large. So natural numbers that are not too large have
numbers, and only zero itself rounds to zero among those of 64 bits.
-/
namespace PresenceGateway.Binary64

theorem two_eq_pow (exponent : Nat) : Power.two exponent = 2 ^ exponent := rfl

theorem two_pos (exponent : Nat) : 0 < Power.two exponent := Nat.two_pow_pos exponent

theorem two_succ (exponent : Nat) : Power.two (exponent + 1) = Power.two exponent * 2 :=
  Nat.pow_succ 2 exponent

theorem two_mono {small large : Nat} (less : small ≤ large) :
    Power.two small ≤ Power.two large :=
  Nat.pow_le_pow_right (by decide) less

theorem two_pow_le_two {small large : Nat} (less : small ≤ large) : 2 ^ small ≤ Power.two large :=
  Nat.pow_le_pow_right (by decide) less

theorem nearestQuotient_bounds (dividend divisor : Nat) :
    dividend / divisor ≤ nearestQuotient dividend divisor ∧
      nearestQuotient dividend divisor ≤ dividend / divisor + 1 := by
  unfold nearestQuotient
  simp only
  split
  · omega
  · split
    · omega
    · split <;> omega

/-- Dividing by the unit leaves exactly 53 bits of a quotient that has at least as many. -/
theorem scaled_quotient_bounds {quotient : Nat} (large : 2 ^ 52 ≤ quotient) :
    2 ^ 52 ≤ quotient / 2 ^ (quotient.log2 - 52) ∧
      quotient / 2 ^ (quotient.log2 - 52) < 2 ^ 53 := by
  have nonzero : quotient ≠ 0 := by
    intro zero
    simp [zero] at large
  have bits : 52 ≤ quotient.log2 := (Nat.le_log2 nonzero).mpr large
  have low : 2 ^ quotient.log2 ≤ quotient := Nat.log2_self_le nonzero
  have high : quotient < 2 ^ (quotient.log2 + 1) := Nat.lt_log2_self
  constructor
  · rw [Nat.le_div_iff_mul_le (Nat.two_pow_pos _), ← Nat.pow_add]
    rwa [Nat.add_sub_cancel' bits]
  · rw [Nat.div_lt_iff_lt_mul (Nat.two_pow_pos _), ← Nat.pow_add]
    have exponent : 53 + (quotient.log2 - 52) = quotient.log2 + 1 := by omega
    rwa [exponent]

/-! ### What a quotient is rounded to -/

def unitOf (dividend divisor : Nat) : Nat :=
  (dividend / divisor).log2 - 52

/-- The rounded quotient as a magnitude, whether or not there is a number of that size. -/
def roundedQuotient (dividend divisor : Nat) : Nat :=
  nearestQuotient dividend (divisor * 2 ^ unitOf dividend divisor) * 2 ^ unitOf dividend divisor

/-- The rounded quotient is at most half off. -/
theorem two_mul_nearestQuotient_bounds (dividend : Nat) {divisor : Nat} (positive : 0 < divisor) :
    2 * (nearestQuotient dividend divisor * divisor) ≤ 2 * dividend + divisor ∧
      2 * dividend ≤ 2 * (nearestQuotient dividend divisor * divisor) + divisor := by
  have split := Nat.div_add_mod dividend divisor
  have rest := Nat.mod_lt dividend positive
  unfold nearestQuotient
  dsimp only
  generalize dividend / divisor = quotient at split ⊢
  generalize dividend % divisor = remainder at split rest ⊢
  rw [Nat.mul_comm] at split
  split_ifs
  · omega
  · rw [Nat.add_mul]
    omega
  · omega
  · rw [Nat.add_mul]
    omega

/-- Rounding adds at most half a unit. -/
theorem two_mul_roundedQuotient_le (dividend : Nat) {divisor : Nat} (positive : 0 < divisor) :
    2 * (roundedQuotient dividend divisor * divisor) ≤
      2 * dividend + divisor * 2 ^ unitOf dividend divisor := by
  have half := (two_mul_nearestQuotient_bounds dividend
    (Nat.mul_pos positive (Nat.two_pow_pos (unitOf dividend divisor)))).1
  unfold roundedQuotient
  calc
    _ = 2 * (nearestQuotient dividend (divisor * 2 ^ unitOf dividend divisor) *
        (divisor * 2 ^ unitOf dividend divisor)) := by ring
    _ ≤ _ := half

/-- A quotient with all 53 bits has at least `2 ^ 52` units. -/
theorem unitOf_of_large {dividend divisor : Nat} (large : 2 ^ 52 ≤ dividend / divisor) :
    2 ^ 52 * 2 ^ unitOf dividend divisor ≤ dividend / divisor := by
  have nonzero : dividend / divisor ≠ 0 := by
    intro zero
    simp [zero] at large
  have bits : 52 ≤ (dividend / divisor).log2 := (Nat.le_log2 nonzero).mpr large
  rw [← Nat.pow_add, unitOf, Nat.add_sub_cancel' bits]
  exact Nat.log2_self_le nonzero

theorem unitOf_of_small {dividend divisor : Nat} (small : dividend / divisor < 2 ^ 52) :
    unitOf dividend divisor = 0 := by
  unfold unitOf
  by_cases zero : dividend / divisor = 0
  · simp [zero]
  · have bits := (Nat.log2_lt zero).mpr small
    omega

/-- The rounded quotient is relatively off by at most `2 ^ (-53)`. -/
theorem roundedQuotient_le {dividend divisor : Nat} (large : 2 ^ 52 ≤ dividend / divisor) :
    roundedQuotient dividend divisor * divisor * 2 ^ 53 ≤ dividend * (2 ^ 53 + 1) := by
  have positive : 0 < divisor := by
    apply Nat.pos_of_ne_zero
    rintro rfl
    simp at large
  have half := two_mul_roundedQuotient_le dividend positive
  have unit : divisor * (2 ^ 52 * 2 ^ unitOf dividend divisor) ≤ dividend :=
    (Nat.mul_le_mul_left _ (unitOf_of_large large)).trans (Nat.mul_div_le dividend divisor)
  generalize 2 ^ unitOf dividend divisor = step at half unit
  have shifted : divisor * (2 ^ 52 * step) = 2 ^ 52 * (divisor * step) := by ring
  omega

/-- The rounded quotient is at most twice as large as the quotient, or 1. -/
theorem roundedQuotient_le_double (dividend divisor : Nat) :
    roundedQuotient dividend divisor ≤ 2 * (dividend / divisor) + 1 := by
  have rounded := (nearestQuotient_bounds dividend
    (divisor * 2 ^ unitOf dividend divisor)).2
  rw [← Nat.div_div_eq_div_mul] at rounded
  have scaled := Nat.div_mul_le_self (dividend / divisor) (2 ^ unitOf dividend divisor)
  have step : 2 ^ unitOf dividend divisor ≤ dividend / divisor + 1 := by
    rcases Nat.lt_or_ge (dividend / divisor) (2 ^ 52) with small | large
    · rw [unitOf_of_small small]
      omega
    · have units := unitOf_of_large large
      omega
  calc
    _ ≤ (dividend / divisor / 2 ^ unitOf dividend divisor + 1) * 2 ^ unitOf dividend divisor :=
      Nat.mul_le_mul_right _ rounded
    _ = dividend / divisor / 2 ^ unitOf dividend divisor * 2 ^ unitOf dividend divisor +
        2 ^ unitOf dividend divisor := by ring
    _ ≤ _ := by omega

/-- A power of two that the quotient reaches is reached by what it is rounded to. -/
theorem two_pow_le_roundedQuotient {dividend divisor : Nat} (bits : Nat) (enough : 52 ≤ bits)
    (large : Power.two bits ≤ dividend / divisor) :
    Power.two bits ≤ roundedQuotient dividend divisor := by
  rw [two_eq_pow] at large ⊢
  have least : 2 ^ 52 ≤ dividend / divisor :=
    (Nat.pow_le_pow_right (by decide) enough).trans large
  have nonzero : dividend / divisor ≠ 0 := by
    intro zero
    simp [zero] at least
  have reached : bits ≤ (dividend / divisor).log2 := (Nat.le_log2 nonzero).mpr large
  have rounded := (nearestQuotient_bounds dividend
    (divisor * 2 ^ unitOf dividend divisor)).1
  rw [← Nat.div_div_eq_div_mul] at rounded
  have low := (scaled_quotient_bounds least).1
  calc
    2 ^ bits ≤ 2 ^ (52 + unitOf dividend divisor) := by
      apply Nat.pow_le_pow_right (by decide)
      unfold unitOf
      omega
    _ = 2 ^ 52 * 2 ^ unitOf dividend divisor := Nat.pow_add ..
    _ ≤ roundedQuotient dividend divisor := Nat.mul_le_mul_right _ (low.trans rounded)

theorem lt_of_two_pow_lt {first second : Nat} (less : 2 ^ first < 2 ^ second) : first < second :=
  (Nat.pow_lt_pow_iff_right (by decide)).mp less

theorem unit_le_of_lt {significand unit top : Nat} (full : 2 ^ 52 ≤ significand)
    (fits : significand * 2 ^ unit < 0x20000000000000 * 2 ^ top) : unit ≤ top := by
  apply Nat.le_of_not_lt
  intro above
  have power : 2 ^ (top + 1) ≤ 2 ^ unit := Nat.pow_le_pow_right (by decide) above
  have product := Nat.mul_le_mul full power
  rw [Nat.pow_succ] at product
  generalize significand * 2 ^ unit = magnitude at fits product
  omega

/-- The rounded significand has at most 53 bits, up to a carry, and all of them unless the unit is
the smallest one. -/
theorem nearestQuotient_shape (dividend divisor : Nat) :
    (2 ^ 52 ≤ nearestQuotient dividend (divisor * 2 ^ unitOf dividend divisor) ∨
      unitOf dividend divisor = 0) ∧
      nearestQuotient dividend (divisor * 2 ^ unitOf dividend divisor) ≤ 2 ^ 53 := by
  have rounded := nearestQuotient_bounds dividend (divisor * 2 ^ unitOf dividend divisor)
  rw [← Nat.div_div_eq_div_mul] at rounded
  rcases Nat.lt_or_ge (dividend / divisor) (2 ^ 52) with small | large
  · have unit := unitOf_of_small small
    rw [unit, Nat.pow_zero, Nat.div_one] at rounded
    refine ⟨.inr unit, ?_⟩
    rw [unit, Nat.pow_zero]
    omega
  · obtain ⟨low, high⟩ := scaled_quotient_bounds large
    change 2 ^ 52 ≤ dividend / divisor / 2 ^ unitOf dividend divisor at low
    change dividend / divisor / 2 ^ unitOf dividend divisor < 2 ^ 53 at high
    exact ⟨.inl (by omega), by omega⟩

/-- A quotient that is less than half a unit above the largest magnitude is not rounded up to one
that is too large. -/
theorem roundedQuotient_lt {dividend divisor top : Nat}
    (less : dividend < divisor * ((2 ^ 54 - 1) * Power.two top)) :
    roundedQuotient dividend divisor < 0x20000000000000 * Power.two (top + 1) := by
  rw [two_eq_pow] at less ⊢
  have positive : 0 < divisor := by
    apply Nat.pos_of_ne_zero
    rintro rfl
    simp at less
  have quotient : dividend / divisor < (2 ^ 54 - 1) * 2 ^ top :=
    (Nat.div_lt_iff_lt_mul positive).mpr (Nat.mul_comm divisor _ ▸ less)
  have half := two_mul_roundedQuotient_le dividend positive
  have small := (nearestQuotient_shape dividend divisor).2
  rw [Nat.pow_succ 2 top]
  rcases Nat.lt_or_ge top (unitOf dividend divisor) with above | within
  · have large : 2 ^ 52 ≤ dividend / divisor := by
      apply Nat.le_of_not_lt
      intro tiny
      have unit := unitOf_of_small tiny
      omega
    have units := unitOf_of_large large
    have next : unitOf dividend divisor = top + 1 := by
      apply Nat.le_antisymm _ above
      apply Nat.le_of_not_lt
      intro beyond
      have power : 2 ^ (top + 2) ≤ 2 ^ unitOf dividend divisor :=
        Nat.pow_le_pow_right (by decide) beyond
      rw [Nat.pow_add] at power
      omega
    rw [next, Nat.pow_succ 2 top] at half
    apply Nat.lt_of_mul_lt_mul_right (a := divisor)
    have sum : 2 * (divisor * ((2 ^ 54 - 1) * 2 ^ top)) + divisor * (2 ^ top * 2) =
        2 * (0x20000000000000 * (2 ^ top * 2) * divisor) := by ring
    omega
  · have power : 2 ^ unitOf dividend divisor ≤ 2 ^ top := Nat.pow_le_pow_right (by decide) within
    have product := Nat.mul_le_mul small power
    have grain := Nat.two_pow_pos top
    unfold roundedQuotient
    omega

def ceiling : Nat := 0x20000000000000 * Power.two 2045

theorem roundedQuotient_lt_ceiling {dividend divisor : Nat}
    (less : dividend < divisor * ((2 ^ 54 - 1) * Power.two 2044)) :
    roundedQuotient dividend divisor < ceiling := by
  have top : ceiling = 0x20000000000000 * Power.two (2044 + 1) := by decide +kernel
  rw [top]
  exact roundedQuotient_lt less

/-- There is a number for a rounded quotient that is not too large. -/
theorem nearest?_of_lt (negative : Bool) {dividend divisor : Nat}
    (fits : roundedQuotient dividend divisor < ceiling) :
    ∃ x, nearest? negative dividend divisor = some x ∧
      x.magnitude = roundedQuotient dividend divisor := by
  obtain ⟨full, atMost⟩ := nearestQuotient_shape dividend divisor
  rw [ceiling, two_eq_pow] at fits
  unfold roundedQuotient at fits ⊢
  change ∃ x, (if nearestQuotient dividend (divisor * 2 ^ unitOf dividend divisor) =
      0x20000000000000 then make? negative 0x10000000000000 (unitOf dividend divisor + 1)
    else make? negative (nearestQuotient dividend (divisor * 2 ^ unitOf dividend divisor))
      (unitOf dividend divisor)) = some x ∧ _
  generalize nearestQuotient dividend (divisor * 2 ^ unitOf dividend divisor) = significand
    at fits full atMost ⊢
  generalize unitOf dividend divisor = unit at fits full ⊢
  by_cases carried : significand = 0x20000000000000
  · subst carried
    have smaller : 2 ^ unit < 2 ^ 2045 := Nat.lt_of_mul_lt_mul_left fits
    have unitFits : unit < 2045 := lt_of_two_pow_lt smaller
    refine ⟨⟨negative, 0x10000000000000, unit + 1, by decide, .inl (by decide), by omega⟩, ?_, ?_⟩
    · rw [if_pos rfl]
      unfold make?
      rw [dif_pos ⟨by decide, .inl (by decide), by omega⟩]
    · change 0x10000000000000 * 2 ^ (unit + 1) = 0x20000000000000 * 2 ^ unit
      rw [Nat.pow_succ]
      omega
  · have below : significand < 0x20000000000000 := by omega
    have unitFits : unit ≤ 2045 := by
      rcases full with full | zero
      · exact unit_le_of_lt full fits
      · omega
    refine ⟨⟨negative, significand, unit, below, full, unitFits⟩, ?_, rfl⟩
    rw [if_neg carried]
    unfold make?
    rw [dif_pos ⟨below, full, unitFits⟩]

/-! ### Natural numbers -/

theorem ofNat?_zero : ofNat? 0 = some (.zero false) := by
  unfold ofNat? ofFraction? nearest?
  simp only [Nat.mul_zero, Nat.zero_div, Nat.log2_zero, Nat.zero_sub]
  rfl

theorem ceiling_eq : ceiling = Power.two 1074 * Power.two 1024 := by decide +kernel

/-- A natural number that is not too large has a number, relatively off by at most `2 ^ (-53)` and
not below 1 unless the natural number is. -/
theorem ofNat?_spec {n : Nat} (small : n * (2 ^ 53 + 1) < Power.two 1024 * 2 ^ 53) :
    ∃ x, ofNat? n = some x ∧ x.magnitude * 2 ^ 53 ≤ Power.two 1074 * n * (2 ^ 53 + 1) ∧
      (0 < n → Power.two 1074 ≤ x.magnitude) := by
  rcases Nat.eq_zero_or_pos n with rfl | positive
  · refine ⟨.zero false, ofNat?_zero, ?_, fun impossible => absurd impossible (Nat.lt_irrefl 0)⟩
    have nothing : (zero false).magnitude = 0 := Nat.zero_mul _
    rw [nothing, Nat.zero_mul]
    exact Nat.zero_le _
  · have grain : 2 ^ 52 ≤ Power.two 1074 := two_pow_le_two (by decide)
    have one : Power.two 1074 ≤ Power.two 1074 * n / 1 := by
      rw [Nat.div_one]
      exact Nat.le_mul_of_pos_right _ positive
    have upper := roundedQuotient_le (grain.trans one)
    have lower := two_pow_le_roundedQuotient 1074 (by decide) one
    rw [Nat.mul_one] at upper
    have fits : roundedQuotient (Power.two 1074 * n) 1 < ceiling := by
      rw [ceiling_eq]
      apply Nat.lt_of_mul_lt_mul_right (a := 2 ^ 53)
      calc
        _ ≤ Power.two 1074 * n * (2 ^ 53 + 1) := upper
        _ = Power.two 1074 * (n * (2 ^ 53 + 1)) := Nat.mul_assoc ..
        _ < Power.two 1074 * (Power.two 1024 * 2 ^ 53) :=
          Nat.mul_lt_mul_of_pos_left small (two_pos 1074)
        _ = _ := (Nat.mul_assoc ..).symm
    obtain ⟨x, found, magnitude⟩ := nearest?_of_lt false fits
    refine ⟨x, found, ?_, fun _ => ?_⟩
    · rw [magnitude]
      exact upper
    · rw [magnitude]
      exact lower

theorem word_fits {n : Nat} (small : n < 2 ^ 64) : n * (2 ^ 53 + 1) < Power.two 1024 * 2 ^ 53 := by
  have power : 2 ^ 120 ≤ Power.two 1024 := two_pow_le_two (by decide)
  omega

/-- A positive natural number of 64 bits has a number, which is not zero. -/
theorem ofNat?_of_pos {n : Nat} (positive : 0 < n) (small : n < 2 ^ 64) :
    ∃ x, ofNat? n = some x ∧ x.isZero = false := by
  obtain ⟨x, found, _, one⟩ := ofNat?_spec (word_fits small)
  refine ⟨x, found, ?_⟩
  rw [isZero, beq_eq_false_iff_ne]
  intro zero
  have grain := two_pos 1074
  have magnitude := one positive
  rw [Binary64.magnitude, zero, Nat.zero_mul] at magnitude
  omega

theorem isZero_iff (x : Binary64) : x.isZero = true ↔ ∃ negative, x = .zero negative := by
  constructor
  · intro zero
    have significand : x.significand = 0 := by simpa [isZero] using zero
    have unit : x.unit = 0 := by
      rcases x.normal with full | unit
      · simp [significand] at full
      · exact unit
    obtain ⟨negative, _, _, _, _, _⟩ := x
    simp only at significand unit
    subst significand unit
    exact ⟨negative, rfl⟩
  · rintro ⟨negative, rfl⟩
    rfl

end PresenceGateway.Binary64
