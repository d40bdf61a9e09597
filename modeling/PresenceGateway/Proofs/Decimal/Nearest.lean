import Mathlib.Algebra.Order.Field.Basic
import Mathlib.Tactic.FieldSimp
import Mathlib.Tactic.Linarith
import Mathlib.Tactic.Positivity
import PresenceGateway.Proofs.Decimal.Rounding
/-!
The number that is nearest to a fraction.

Rounding gives the multiple of the unit that is nearest to the fraction. The numbers that are no
multiples of it are so small that the multiple is nearer than they are, so no number is nearer. A
fraction has no number exactly from halfway between the largest number and the next power of two.
-/
namespace PresenceGateway

def signed (negative : Bool) (size : ℚ) : ℚ :=
  if negative then -size else size

theorem abs_signed (negative : Bool) {size : ℚ} (nonneg : 0 ≤ size) :
    |signed negative size| = size := by
  unfold signed
  split
  · rw [abs_neg, abs_of_nonneg nonneg]
  · rw [abs_of_nonneg nonneg]

theorem abs_signed_sub (negative : Bool) (first second : ℚ) :
    |signed negative first - signed negative second| = |first - second| := by
  unfold signed
  split
  · rw [neg_sub_neg, abs_sub_comm]
  · rfl

namespace Binary64

/-! ### Values and distances -/

def size (x : Binary64) : ℚ :=
  x.magnitude / Power.two 1074

def value (x : Binary64) : ℚ :=
  signed x.negative x.size

/-- No number is nearer to the value. -/
def IsNearest (x : Binary64) (v : ℚ) : Prop :=
  ∀ y : Binary64, |x.value - v| ≤ |y.value - v|

theorem grain_pos : (0 : ℚ) < (Power.two 1074 : ℕ) := Nat.cast_pos.mpr (two_pos 1074)

theorem size_nonneg (x : Binary64) : 0 ≤ x.size := by
  unfold size
  positivity

theorem abs_value (x : Binary64) : |x.value| = x.size :=
  abs_signed x.negative x.size_nonneg

/-- A number of the sign of a value is nearest to it when its size is nearest to that of the value. -/
theorem isNearest_of_size {x : Binary64} {v : ℚ} (nonneg : 0 ≤ v)
    (nearest : ∀ y : Binary64, |x.size - v| ≤ |y.size - v|) :
    x.IsNearest (signed x.negative v) := by
  intro y
  have other := abs_abs_sub_abs_le_abs_sub y.value (signed x.negative v)
  rw [abs_value, abs_signed x.negative nonneg] at other
  rw [value, abs_signed_sub]
  exact (nearest y).trans other

/-! ### The nearest integer -/

theorem nearestQuotient_close (dividend : Nat) {divisor : Nat} (positive : 0 < divisor) :
    |(nearestQuotient dividend divisor : ℚ) - dividend / divisor| ≤ 1 / 2 := by
  have above : (2 * (nearestQuotient dividend divisor * divisor) : ℚ) ≤ 2 * dividend + divisor :=
    mod_cast (two_mul_nearestQuotient_bounds dividend positive).1
  have below : (2 * dividend : ℚ) ≤ 2 * (nearestQuotient dividend divisor * divisor) + divisor :=
    mod_cast (two_mul_nearestQuotient_bounds dividend positive).2
  have divides : (0 : ℚ) < divisor := Nat.cast_pos.mpr positive
  have quotient : (dividend / divisor : ℚ) * divisor = dividend := div_mul_cancel₀ _ divides.ne'
  rw [abs_le]
  constructor
  · apply le_of_mul_le_mul_right _ divides
    linarith
  · apply le_of_mul_le_mul_right _ divides
    linarith

theorem abs_sub_le_of_half (nearest : Int) {q : ℚ} (close : |(nearest : ℚ) - q| ≤ 1 / 2)
    (other : Int) : |(nearest : ℚ) - q| ≤ |(other : ℚ) - q| := by
  by_cases same : other = nearest
  · rw [same]
  · have apart : (1 : ℚ) ≤ |((other - nearest : Int) : ℚ)| := by
      rw [← Int.cast_abs]
      exact_mod_cast Int.one_le_abs (sub_ne_zero.mpr same)
    have triangle := abs_sub_le (other : ℚ) q nearest
    rw [abs_sub_comm q] at triangle
    rw [Int.cast_sub] at apart
    linarith

/-! ### The nearest number -/

section Quotient

variable (dividend : Nat) {divisor : Nat}

/-- The unit in which a quotient is rounded is the smallest one, or the quotient has at least
`2 ^ 52` of them. -/
theorem unitOf_cases (positive : 0 < divisor) : unitOf dividend divisor = 0 ∨
    (2 ^ 52 * 2 ^ unitOf dividend divisor : ℚ) ≤ dividend / divisor := by
  rcases Nat.lt_or_ge (dividend / divisor) (2 ^ 52) with small | large
  · exact .inl (unitOf_of_small small)
  · right
    rw [le_div_iff₀ (Nat.cast_pos.mpr positive)]
    have units := (Nat.mul_le_mul_right divisor (unitOf_of_large large)).trans
      (Nat.div_mul_le_self dividend divisor)
    exact_mod_cast units

theorem roundedQuotient_scaled (positive : 0 < divisor) (k : ℚ) :
    |k * 2 ^ unitOf dividend divisor - dividend / divisor| =
      2 ^ unitOf dividend divisor *
        |k - dividend / ((divisor * 2 ^ unitOf dividend divisor : Nat) : ℚ)| := by
  have step : (0 : ℚ) < 2 ^ unitOf dividend divisor := by positivity
  have divides : (divisor : ℚ) ≠ 0 := (Nat.cast_pos.mpr positive).ne'
  nth_rewrite 2 [← abs_of_pos step]
  rw [← abs_mul, Nat.cast_mul, Nat.cast_pow, Nat.cast_ofNat]
  congr 1
  field_simp

theorem roundedQuotient_close (positive : 0 < divisor) :
    |(roundedQuotient dividend divisor : ℚ) - dividend / divisor| ≤
      2 ^ unitOf dividend divisor / 2 := by
  have divides := Nat.mul_pos positive (Nat.two_pow_pos (unitOf dividend divisor))
  have half := nearestQuotient_close dividend divides
  have step : (0 : ℚ) ≤ 2 ^ unitOf dividend divisor := by positivity
  rw [roundedQuotient, Nat.cast_mul, Nat.cast_pow, Nat.cast_ofNat,
    roundedQuotient_scaled dividend positive]
  calc
    _ ≤ (2 ^ unitOf dividend divisor : ℚ) * (1 / 2) := mul_le_mul_of_nonneg_left half step
    _ = _ := by ring

/-- A multiple of the unit is not nearer to the quotient than what it is rounded to. -/
theorem roundedQuotient_le_multiple (positive : 0 < divisor) (k : Nat) :
    |(roundedQuotient dividend divisor : ℚ) - dividend / divisor| ≤
      |((k * 2 ^ unitOf dividend divisor : Nat) : ℚ) - dividend / divisor| := by
  have divides := Nat.mul_pos positive (Nat.two_pow_pos (unitOf dividend divisor))
  have half := nearestQuotient_close dividend divides
  have nearest := abs_sub_le_of_half (nearestQuotient dividend _) (by exact_mod_cast half) k
  have step : (0 : ℚ) ≤ 2 ^ unitOf dividend divisor := by positivity
  rw [roundedQuotient]
  push_cast
  rw [roundedQuotient_scaled dividend positive, roundedQuotient_scaled dividend positive]
  exact mul_le_mul_of_nonneg_left (by exact_mod_cast nearest) step

/-- The numbers between the multiples of a power of two lie below `2 ^ 52` times the power. -/
theorem magnitude_grid (y : Binary64) (unit : Nat) :
    (∃ k, y.magnitude = k * 2 ^ unit) ∨ (0 < unit ∧ y.magnitude ≤ 2 ^ 52 * 2 ^ unit) := by
  rw [magnitude, two_eq_pow]
  rcases Nat.lt_or_ge y.unit unit with finer | coarser
  · right
    refine ⟨Nat.zero_lt_of_lt finer, ?_⟩
    have power : 2 * 2 ^ y.unit ≤ 2 ^ unit := by
      rw [← Nat.pow_succ']
      exact Nat.pow_le_pow_right (by decide) finer
    have bound := Nat.mul_le_mul_right (2 ^ y.unit) (Nat.le_of_lt y.significand_lt)
    omega
  · left
    refine ⟨y.significand * 2 ^ (y.unit - unit), ?_⟩
    rw [Nat.mul_assoc, ← Nat.pow_add, Nat.sub_add_cancel coarser]

/-- No number is nearer to the quotient than what it is rounded to. -/
theorem roundedQuotient_nearest (positive : 0 < divisor) (y : Binary64) :
    |(roundedQuotient dividend divisor : ℚ) - dividend / divisor| ≤
      |(y.magnitude : ℚ) - dividend / divisor| := by
  rcases magnitude_grid y (unitOf dividend divisor) with ⟨k, multiple⟩ | ⟨scaled, lower⟩
  · rw [multiple]
    exact roundedQuotient_le_multiple dividend positive k
  · have grid := roundedQuotient_le_multiple dividend positive (2 ^ 52)
    have least : (2 ^ 52 * 2 ^ unitOf dividend divisor : ℚ) ≤ dividend / divisor :=
      (unitOf_cases dividend positive).resolve_left scaled.ne'
    have below : (y.magnitude : ℚ) ≤ 2 ^ 52 * 2 ^ unitOf dividend divisor := mod_cast lower
    rw [Nat.cast_mul, Nat.cast_pow, Nat.cast_pow, Nat.cast_ofNat] at grid
    rw [abs_of_nonpos (sub_nonpos.mpr least)] at grid
    rw [abs_of_nonpos (sub_nonpos.mpr (below.trans least))]
    linarith

end Quotient

theorem negative_of_nearest? {negative : Bool} {dividend divisor : Nat} {x : Binary64}
    (found : nearest? negative dividend divisor = some x) : x.negative = negative := by
  unfold nearest? make? at found
  dsimp only at found
  split_ifs at found
  · cases found
    rfl
  · cases found
    rfl

/-! ### Numbers that are too large -/

/-- Halfway between the largest number and the next power of two. -/
def overflow : ℚ := 2 ^ 1024 - 2 ^ 970

theorem two_add (first second : Nat) :
    Power.two (first + second) = Power.two first * Power.two second :=
  Nat.pow_add 2 first second

theorem overflow_scaled : overflow * Power.two 1074 = ((2 ^ 54 - 1) * Power.two 2044 : Nat) := by
  have limit : 1024 = 54 + 970 := rfl
  have top : 2044 = 970 + 1074 := rfl
  rw [overflow, limit, pow_add, top, two_add, two_eq_pow 970]
  generalize Power.two 1074 = g
  rw [Nat.cast_mul, Nat.cast_mul, Nat.cast_pow, Nat.cast_ofNat]
  generalize (2 : ℚ) ^ 970 = half
  push_cast
  ring

/-- At half a unit above an odd integer the next one is the nearest. -/
theorem nearestQuotient_of_half {dividend divisor : Nat} (odd : Nat) (isOdd : odd % 2 = 1)
    (half : (2 * odd + 1) * divisor ≤ 2 * dividend) (positive : 0 < divisor) :
    odd + 1 ≤ nearestQuotient dividend divisor := by
  have split := Nat.div_add_mod dividend divisor
  have rest := Nat.mod_lt dividend positive
  have reached : odd ≤ dividend / divisor := by
    rw [Nat.le_div_iff_mul_le positive]
    rw [Nat.add_mul, Nat.mul_assoc] at half
    omega
  rcases Nat.lt_or_ge odd (dividend / divisor) with above | here
  · exact Nat.le_trans above (nearestQuotient_bounds dividend divisor).1
  · have same : dividend / divisor = odd := Nat.le_antisymm here reached
    unfold nearestQuotient
    dsimp only
    rw [same] at split ⊢
    generalize dividend % divisor = remainder at split rest ⊢
    rw [Nat.add_mul, Nat.mul_assoc, Nat.mul_comm odd] at half
    split_ifs <;> omega

theorem le_unitOf {dividend divisor bits : Nat} (large : Power.two bits ≤ dividend / divisor) :
    bits - 52 ≤ unitOf dividend divisor := by
  have nonzero : dividend / divisor ≠ 0 := (Nat.lt_of_lt_of_le (two_pos bits) large).ne'
  exact Nat.sub_le_sub_right ((Nat.le_log2 nonzero).mpr large) 52

theorem nearest?_of_ge (negative : Bool) {dividend divisor : Nat} (positive : 0 < divisor)
    (large : (2 ^ 54 - 1) * Power.two 2044 * divisor ≤ dividend) :
    nearest? negative dividend divisor = none := by
  have reached : (2 ^ 54 - 1) * Power.two 2044 ≤ dividend / divisor :=
    (Nat.le_div_iff_mul_le positive).mpr large
  have power : Power.two 2097 ≤ (2 ^ 54 - 1) * Power.two 2044 := by decide +kernel
  have unit : 2045 ≤ unitOf dividend divisor := le_unitOf (power.trans reached)
  have carried : unitOf dividend divisor = 2045 →
      nearestQuotient dividend (divisor * 2 ^ unitOf dividend divisor) = 2 ^ 53 := by
    intro top
    apply Nat.le_antisymm (nearestQuotient_shape dividend divisor).2
    have grid : Power.two 2045 = Power.two 2044 * 2 := two_succ 2044
    rw [← two_eq_pow (unitOf dividend divisor), top]
    refine nearestQuotient_of_half 0x1FFFFFFFFFFFFF (by decide) ?_ ?_
    · rw [grid]
      calc
        _ = 2 * ((2 ^ 54 - 1) * Power.two 2044 * divisor) := by ring
        _ ≤ _ := Nat.mul_le_mul_left 2 large
    · exact Nat.mul_pos positive (two_pos 2045)
  change (if nearestQuotient dividend (divisor * 2 ^ unitOf dividend divisor) =
      0x20000000000000 then make? negative 0x10000000000000 (unitOf dividend divisor + 1)
    else make? negative (nearestQuotient dividend (divisor * 2 ^ unitOf dividend divisor))
      (unitOf dividend divisor)) = none
  unfold make?
  generalize nearestQuotient dividend (divisor * 2 ^ unitOf dividend divisor) = significand
    at carried ⊢
  split_ifs with whole first second
  · omega
  · rfl
  · exact absurd (carried (by omega)) whole
  · rfl

/-! ### Fractions -/

section Fraction

variable (negative : Bool) {numerator denominator : Nat}

theorem size_sub (x : Binary64) :
    |x.size - numerator / denominator| =
      |(x.magnitude : ℚ) - (Power.two 1074 * numerator : Nat) / denominator| / Power.two 1074 := by
  have grain := grain_pos
  rw [size, Nat.cast_mul]
  generalize ((Power.two 1074 : Nat) : ℚ) = g at grain ⊢
  nth_rewrite 3 [← abs_of_pos grain]
  rw [← abs_div]
  congr 1
  field_simp

/-- There is a number for a fraction that is not too large. None is nearer, and it is off by at most
a part in `2 ^ 53` and half the smallest number. -/
theorem ofFraction?_of_lt (positive : 0 < denominator)
    (small : (numerator / denominator : ℚ) < overflow) :
    ∃ x, ofFraction? negative numerator denominator = some x ∧ x.negative = negative ∧
      (∀ y : Binary64, |x.size - numerator / denominator| ≤ |y.size - numerator / denominator|) ∧
      |x.size - numerator / denominator| ≤
        numerator / denominator / 2 ^ 53 + 1 / (2 * Power.two 1074) := by
  have grain := grain_pos
  have divides : (0 : ℚ) < denominator := Nat.cast_pos.mpr positive
  have fits : Power.two 1074 * numerator < denominator * ((2 ^ 54 - 1) * Power.two 2044) := by
    rw [div_lt_iff₀ divides] at small
    have scaled := mul_lt_mul_of_pos_left small grain
    rw [mul_comm overflow, mul_left_comm, mul_comm (Power.two 1074 : ℚ) overflow,
      overflow_scaled] at scaled
    exact_mod_cast scaled
  obtain ⟨x, found, magnitude⟩ := nearest?_of_lt negative (roundedQuotient_lt_ceiling fits)
  refine ⟨x, found, negative_of_nearest? found, fun y => ?_, ?_⟩
  · rw [size_sub, size_sub, magnitude]
    exact div_le_div_of_nonneg_right (roundedQuotient_nearest _ positive y) grain.le
  · have close := roundedQuotient_close (Power.two 1074 * numerator) positive
    have unit := unitOf_cases (Power.two 1074 * numerator) positive
    rw [size_sub, magnitude, div_le_iff₀ grain]
    have shape : ((numerator : ℚ) / denominator / 2 ^ 53 + 1 / (2 * Power.two 1074)) *
        Power.two 1074 =
          (Power.two 1074 * numerator : Nat) / denominator / 2 ^ 53 + 1 / 2 := by
      rw [Nat.cast_mul]
      generalize ((Power.two 1074 : Nat) : ℚ) = g at grain ⊢
      field_simp
    have nonneg : (0 : ℚ) ≤ (Power.two 1074 * numerator : Nat) / denominator :=
      div_nonneg (Nat.cast_nonneg _) divides.le
    rw [shape]
    generalize ((Power.two 1074 * numerator : Nat) : ℚ) / denominator = q at *
    rcases unit with least | full
    · rw [least] at close
      linarith
    · linarith

theorem ofFraction?_of_ge (positive : 0 < denominator)
    (large : overflow ≤ (numerator / denominator : ℚ)) :
    ofFraction? negative numerator denominator = none := by
  apply nearest?_of_ge negative positive
  rw [le_div_iff₀ (Nat.cast_pos.mpr positive)] at large
  have scaled := mul_le_mul_of_nonneg_left large grain_pos.le
  rw [← mul_assoc, mul_comm (Power.two 1074 : ℚ) overflow, overflow_scaled] at scaled
  exact_mod_cast scaled

end Fraction

/-! ### Integers -/

theorem size_zero (negative : Bool) : (zero negative).size = 0 := by
  have nothing : (zero negative).magnitude = 0 := Nat.zero_mul _
  rw [size, nothing, Nat.cast_zero, zero_div]

theorem value_zero : (zero false).value = 0 := by
  rw [value, size_zero]
  rfl

/-- Every integer of 53 bits is a number. -/
theorem exists_natural {n : Nat} (small : n < 2 ^ 53) : ∃ x : Binary64, x.value = n := by
  rcases Nat.eq_zero_or_pos n with rfl | positive
  · exact ⟨zero false, value_zero.trans Nat.cast_zero.symm⟩
  · have nonzero : n ≠ 0 := positive.ne'
    have bits : n.log2 < 53 := (Nat.log2_lt nonzero).mpr small
    have low : 2 ^ n.log2 ≤ n := Nat.log2_self_le nonzero
    have high : n < 2 ^ (n.log2 + 1) := Nat.lt_log2_self
    have full : 2 ^ 52 = 2 ^ n.log2 * 2 ^ (52 - n.log2) := by
      rw [← Nat.pow_add, Nat.add_sub_cancel' (by omega)]
    have double : 2 ^ 53 = 2 ^ (n.log2 + 1) * 2 ^ (52 - n.log2) := by
      rw [← Nat.pow_add]
      congr 1
      omega
    have fits : n * 2 ^ (52 - n.log2) < 2 ^ 53 := by
      rw [double]
      exact Nat.mul_lt_mul_of_pos_right high (Nat.two_pow_pos _)
    have normal : 2 ^ 52 ≤ n * 2 ^ (52 - n.log2) := by
      rw [full]
      exact Nat.mul_le_mul_right _ low
    refine ⟨⟨false, n * 2 ^ (52 - n.log2), 1022 + n.log2, fits, .inl normal, by omega⟩, ?_⟩
    have exponent : 52 - n.log2 + (1022 + n.log2) = 1074 := by omega
    have magnitude : n * 2 ^ (52 - n.log2) * Power.two (1022 + n.log2) = n * Power.two 1074 := by
      rw [Nat.mul_assoc, ← two_eq_pow, ← two_add, exponent]
    change ((n * 2 ^ (52 - n.log2) * Power.two (1022 + n.log2) : Nat) : ℚ) / Power.two 1074 = n
    rw [magnitude, Nat.cast_mul]
    exact mul_div_cancel_right₀ _ grain_pos.ne'

section Nearest

variable {x : Binary64} {v : ℚ} (nearest : x.IsNearest v)

include nearest

/-- What is nearest to a value is not below an integer that the value reaches. -/
theorem natural_le {n : Nat} (small : n < 2 ^ 53) (reached : (n : ℚ) ≤ v) : (n : ℚ) ≤ x.value := by
  obtain ⟨y, same⟩ := exists_natural small
  have nearer := nearest y
  rw [same, abs_of_nonpos (sub_nonpos.mpr reached)] at nearer
  have below := neg_abs_le (x.value - v)
  linarith

theorem value_nonpos (negative : v ≤ 0) : x.value ≤ 0 := by
  have nearer := nearest (zero false)
  rw [value_zero, zero_sub, abs_neg, abs_of_nonpos negative] at nearer
  have above := le_abs_self (x.value - v)
  linarith

theorem value_eq_natural {n : Nat} (small : n < 2 ^ 53) (same : v = n) : x.value = n := by
  obtain ⟨y, value⟩ := exists_natural small
  have nearer := nearest y
  rw [value, same, sub_self, abs_zero] at nearer
  exact sub_eq_zero.mp (abs_nonpos_iff.mp nearer)

end Nearest

end Binary64

end PresenceGateway
