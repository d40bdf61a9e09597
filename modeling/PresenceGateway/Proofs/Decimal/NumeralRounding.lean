import Mathlib.Algebra.Order.Field.Power
import Mathlib.Tactic.NormNum
import PresenceGateway.Proofs.Decimal.Digits
import PresenceGateway.Proofs.Decimal.Nearest
/-!
The number of a numeral is the one that is nearest to its value, and there is none exactly when the
value is too large. The two shortcuts for very long and very small numerals give what rounding would.
-/
namespace PresenceGateway

open Binary64 (overflow)

namespace Numeral

/-! ### Values -/

def size (numeral : Numeral) : ℚ :=
  numeral.coefficient * 10 ^ numeral.scale

def value (numeral : Numeral) : ℚ :=
  signed numeral.negative numeral.size

theorem size_nonneg (numeral : Numeral) : 0 ≤ numeral.size := by
  unfold size
  positivity

theorem abs_value (numeral : Numeral) : |numeral.value| = numeral.size :=
  abs_signed numeral.negative numeral.size_nonneg

theorem size_eq_zero {numeral : Numeral} (none : numeral.significantDigits = []) :
    numeral.size = 0 := by
  rw [size, ← ofDigits_significantDigits, none]
  simp [ofDigits]

theorem le_size {numeral : Numeral} (given : numeral.significantDigits ≠ []) :
    (10 : ℚ) ^ (numeral.significantDigits.length + numeral.scale - 1) ≤ numeral.size := by
  obtain ⟨digit, rest, shape⟩ := List.exists_cons_of_ne_nil given
  have positive : 0 < digit := by
    have front := List.head?_dropWhile_not (· = 0) (numeral.whole ++ numeral.fraction)
    rw [significantDigits] at shape
    rw [shape] at front
    exact Nat.pos_of_ne_zero (by simpa using front)
  have reached : (10 : ℚ) ^ rest.length ≤ numeral.coefficient := by
    rw [← ofDigits_significantDigits, shape]
    exact_mod_cast le_ofDigits positive rest
  have power : (0 : ℚ) ≤ 10 ^ numeral.scale := by positivity
  have exponent : (numeral.significantDigits.length + numeral.scale - 1 : Int) =
      rest.length + numeral.scale := by
    rw [shape, List.length_cons]
    push_cast
    ring
  rw [exponent, size, zpow_add₀ (by norm_num), zpow_natCast]
  exact mul_le_mul_of_nonneg_right reached power

section Size

variable {numeral : Numeral} (small : ∀ digit ∈ numeral.whole ++ numeral.fraction, digit < 10)

include small

theorem coefficient_lt : numeral.coefficient < 10 ^ numeral.significantDigits.length := by
  rw [← ofDigits_significantDigits]
  exact ofDigits_lt fun digit inside => small digit ((List.dropWhile_sublist _).mem inside)

theorem size_lt : numeral.size < 10 ^ (numeral.significantDigits.length + numeral.scale) := by
  have less : (numeral.coefficient : ℚ) < 10 ^ numeral.significantDigits.length :=
    mod_cast coefficient_lt small
  have power : (0 : ℚ) < 10 ^ numeral.scale := by positivity
  rw [size, zpow_add₀ (by norm_num), zpow_natCast]
  exact mul_lt_mul_of_pos_right less power

end Size

end Numeral

namespace Binary64

/-! ### Rounding -/

/-- A number to which a value can be rounded. None is nearer, and it is off by at most a part in
`2 ^ 53` and half the smallest number. -/
structure Rounds (x : Binary64) (v : ℚ) : Prop where
  nearest : x.IsNearest v
  close : |x.value - v| ≤ |v| / 2 ^ 53 + 1 / (2 * Power.two 1074)

/-- What is as near as a number to which a value can be rounded is another one. -/
theorem Rounds.of_nearest {x y : Binary64} {v : ℚ} (rounds : x.Rounds v) (nearest : y.IsNearest v) :
    y.Rounds v where
  nearest := nearest
  close := (nearest x).trans rounds.close

theorem rounds_signed {x : Binary64} {v : ℚ} (nonneg : 0 ≤ v)
    (nearest : ∀ y : Binary64, |x.size - v| ≤ |y.size - v|)
    (close : |x.size - v| ≤ v / 2 ^ 53 + 1 / (2 * Power.two 1074)) :
    x.Rounds (signed x.negative v) where
  nearest := isNearest_of_size nonneg nearest
  close := by
    rwa [value, abs_signed_sub, abs_signed x.negative nonneg]

theorem ten_pos (exponent : Nat) : 0 < Power.ten exponent := Nat.pow_pos (by decide)

theorem cast_two (exponent : Nat) : ((Power.two exponent : Nat) : ℚ) = 2 ^ exponent := by
  rw [Power.two, Nat.pow_eq, Nat.cast_pow, Nat.cast_ofNat]

theorem cast_ten (exponent : Nat) : ((Power.ten exponent : Nat) : ℚ) = 10 ^ exponent := by
  rw [Power.ten, Nat.pow_eq, Nat.cast_pow, Nat.cast_ofNat]

theorem exists_fraction (numeral : Numeral) :
    ∃ numerator denominator, 0 < denominator ∧
      ofScaled? numeral.negative numeral.coefficient numeral.scale =
        ofFraction? numeral.negative numerator denominator ∧
      (numerator / denominator : ℚ) = numeral.size := by
  unfold ofScaled? Numeral.size
  generalize numeral.scale = scale
  split
  · rename_i natural
    refine ⟨_, 1, Nat.one_pos, rfl, ?_⟩
    have power : (10 : ℚ) ^ scale = 10 ^ scale.toNat := by
      rw [← zpow_natCast, Int.toNat_of_nonneg natural]
    rw [power, Nat.cast_one, div_one, Nat.cast_mul, cast_ten]
  · rename_i down
    refine ⟨_, _, ten_pos _, rfl, ?_⟩
    have power : (10 : ℚ) ^ scale = ((10 : ℚ) ^ (-scale).toNat)⁻¹ := by
      rw [← zpow_natCast, Int.toNat_of_nonneg (by omega), zpow_neg, inv_inv]
    rw [power, div_eq_mul_inv, cast_ten]

theorem word_lt_overflow : (2 : ℚ) ^ 64 < overflow := by
  have word : (2 : ℚ) ^ 64 ≤ 2 ^ 970 := pow_le_pow_right₀ (by norm_num) (by norm_num)
  have power : (2 : ℚ) ^ 972 ≤ 2 ^ 1024 := pow_le_pow_right₀ (by norm_num) (by norm_num)
  have next : 972 = 2 + 970 := rfl
  rw [next, pow_add] at power
  unfold overflow
  generalize (2 : ℚ) ^ 970 = half at *
  generalize (2 : ℚ) ^ 1024 = top at *
  linarith

/-- A value of 310 and more digits before the point is too large. -/
theorem overflow_le_of_long {size : Int} (long : 310 ≤ size) : overflow ≤ (10 : ℚ) ^ (size - 1) := by
  have power : Power.two 1024 ≤ Power.ten 309 := by decide +kernel
  have cast : ((Power.two 1024 : Nat) : ℚ) ≤ Power.ten 309 := Nat.cast_le.mpr power
  rw [cast_two, cast_ten, ← zpow_natCast 10 309] at cast
  have half : (0 : ℚ) ≤ 2 ^ 970 := pow_nonneg (by norm_num) 970
  have more : (10 : ℚ) ^ ((309 : Nat) : Int) ≤ 10 ^ (size - 1) :=
    zpow_le_zpow_right₀ (by norm_num) (by omega)
  exact (sub_le_self _ half).trans (cast.trans more)

/-- A value with 330 and more zeros after the point is at most half the smallest number. -/
theorem tiny_le_of_short {size : Int} (short : size ≤ -330) :
    (10 : ℚ) ^ size ≤ 1 / (2 * Power.two 1074) := by
  have power : 2 * Power.two 1074 ≤ Power.ten 330 := by decide +kernel
  have cast : ((2 * Power.two 1074 : Nat) : ℚ) ≤ Power.ten 330 := Nat.cast_le.mpr power
  have positive : (0 : ℚ) < (2 * Power.two 1074 : Nat) :=
    Nat.cast_pos.mpr (Nat.mul_pos (by decide) (two_pos 1074))
  rw [cast_ten, ← zpow_natCast 10 330] at cast
  have inverse := one_div_le_one_div_of_le positive cast
  have less : (10 : ℚ) ^ size ≤ 10 ^ (-((330 : Nat) : Int)) :=
    zpow_le_zpow_right₀ (by norm_num) (by omega)
  rw [Nat.cast_mul, Nat.cast_ofNat, one_div (_ ^ _), ← zpow_neg] at inverse
  exact less.trans inverse

/-- Zero is the nearest number to what is at most half the smallest one. -/
theorem zero_nearest (negative : Bool) {v : ℚ} (nonneg : 0 ≤ v)
    (tiny : v ≤ 1 / (2 * Power.two 1074)) (y : Binary64) :
    |(zero negative).size - v| ≤ |y.size - v| := by
  rw [size_zero, zero_sub, abs_neg, abs_of_nonneg nonneg]
  rcases Nat.eq_zero_or_pos y.magnitude with none | some
  · rw [size, none, Nat.cast_zero, zero_div, zero_sub, abs_neg]
    exact le_abs_self v
  · have one : (1 : ℚ) ≤ y.magnitude := mod_cast some
    have least : 1 / (Power.two 1074 : ℚ) ≤ y.size := div_le_div_of_nonneg_right one grain_pos.le
    have half : (1 : ℚ) / (Power.two 1074 : ℚ) = 2 * (1 / (2 * Power.two 1074)) := by
      have grain := grain_pos
      generalize ((Power.two 1074 : Nat) : ℚ) = g at grain ⊢
      field_simp
    exact (by linarith : v ≤ y.size - v).trans (le_abs_self _)

theorem rounds_zero (negative : Bool) {v : ℚ} (nonneg : 0 ≤ v)
    (tiny : v ≤ 1 / (2 * Power.two 1074)) : (zero negative).Rounds (signed negative v) := by
  refine rounds_signed nonneg (zero_nearest negative nonneg tiny) ?_
  have part : 0 ≤ v / 2 ^ 53 := div_nonneg nonneg (by norm_num)
  rw [size_zero, zero_sub, abs_neg, abs_of_nonneg nonneg]
  linarith

section Numeral

variable {numeral : Numeral} (small : ∀ digit ∈ numeral.whole ++ numeral.fraction, digit < 10)

include small

/-- There is a number for a numeral that is not too large. -/
theorem ofNumeral?_of_lt (fits : numeral.size < overflow) :
    ∃ x, ofNumeral? numeral = some x ∧ x.Rounds numeral.value := by
  have half : (0 : ℚ) ≤ 1 / (2 * Power.two 1074) :=
    div_nonneg zero_le_one (mul_nonneg (by norm_num) grain_pos.le)
  unfold ofNumeral?
  dsimp only
  by_cases none : numeral.significantDigits = []
  · rw [if_pos (List.isEmpty_iff.mpr none)]
    exact ⟨_, rfl, rounds_zero _ numeral.size_nonneg ((numeral.size_eq_zero none).le.trans half)⟩
  · rw [if_neg (mt List.isEmpty_iff.mp none), Numeral.ofDigits_significantDigits]
    split_ifs with long tiny
    · have beyond := (overflow_le_of_long long).trans (numeral.le_size none)
      exact absurd fits (not_lt.mpr beyond)
    · have least := (numeral.size_lt small).le.trans (tiny_le_of_short tiny)
      exact ⟨_, rfl, rounds_zero _ numeral.size_nonneg least⟩
    · obtain ⟨numerator, denominator, positive, fraction, quotient⟩ := exists_fraction numeral
      rw [← quotient] at fits
      obtain ⟨x, found, same, nearest, close⟩ := ofFraction?_of_lt numeral.negative positive fits
      rw [quotient] at nearest close
      refine ⟨x, fraction.trans found, ?_⟩
      rw [Numeral.value, ← same]
      exact rounds_signed numeral.size_nonneg nearest close

theorem ofNumeral?_of_ge (large : overflow ≤ numeral.size) : ofNumeral? numeral = none := by
  have word := word_lt_overflow
  unfold ofNumeral?
  dsimp only
  by_cases none : numeral.significantDigits = []
  · rw [numeral.size_eq_zero none] at large
    linarith
  · rw [if_neg (mt List.isEmpty_iff.mp none), Numeral.ofDigits_significantDigits]
    split_ifs with long tiny
    · rfl
    · have power : (10 : ℚ) ^ (numeral.significantDigits.length + numeral.scale) ≤ 1 :=
        zpow_le_one_of_nonpos₀ (by norm_num) (by omega)
      have less := numeral.size_lt small
      linarith
    · obtain ⟨numerator, denominator, positive, fraction, quotient⟩ := exists_fraction numeral
      rw [← quotient] at large
      rw [fraction]
      exact ofFraction?_of_ge numeral.negative positive large

end Numeral

end Binary64

end PresenceGateway
