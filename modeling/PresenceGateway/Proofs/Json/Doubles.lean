import PresenceGateway.Json.Document
import PresenceGateway.Proofs.Decimal.Digits
import PresenceGateway.Proofs.Decimal.Rounding
import PresenceGateway.Proofs.Decimal.Shortest
/-!
The text of every double is read as a number.

The number may have another last digit, because reading rounds the digits, the power of ten and their
product, each on its own. What has to be shown is that none of this overflows. The shortest decimal is
at most half a unit too large and the three roundings add at most two units, so only the two largest
numbers are left, and these are looked at one by one.
-/
namespace PresenceGateway

open Binary64 (roundedQuotient)

/-! ### Scaling by powers of ten -/

namespace Binary64

theorem div?_isSome {x y : Binary64} (one : Power.two 1074 ≤ y.magnitude)
    (small : 2 * x.magnitude + 1 < ceiling) :
    ∃ z, x.div? y = some z ∧ z.magnitude ≤ 2 * x.magnitude + 1 := by
  have grain := two_pos 1074
  have nonzero : y.isZero = false := by
    rw [isZero, beq_eq_false_iff_ne]
    intro zero
    rw [magnitude, zero, Nat.zero_mul] at one
    omega
  have quotient : Power.two 1074 * x.magnitude / y.magnitude ≤ x.magnitude :=
    Nat.div_le_of_le_mul (Nat.mul_le_mul_right _ one)
  have rounded := roundedQuotient_le_double (Power.two 1074 * x.magnitude) y.magnitude
  have fits : roundedQuotient (Power.two 1074 * x.magnitude) y.magnitude < ceiling := by omega
  obtain ⟨z, found, magnitude⟩ := nearest?_of_lt (x.negative != y.negative) fits
  refine ⟨z, ?_, by omega⟩
  rw [div?, if_neg (by simp [nonzero]), found]

theorem product_lt {x y first second grain top : Nat} (fine : 0 < grain) (high : 0 < top)
    (left : x * 2 ^ 53 ≤ grain * first * (2 ^ 53 + 1))
    (right : y * 2 ^ 53 ≤ grain * second * (2 ^ 53 + 1))
    (small : first * second * grain ≤ (2 ^ 54 - 5) * top) :
    x * y < grain * ((2 ^ 54 - 1) * top) := by
  apply Nat.lt_of_mul_lt_mul_right (a := 2 ^ 106)
  calc
    x * y * 2 ^ 106 = x * 2 ^ 53 * (y * 2 ^ 53) := by ring
    _ ≤ grain * first * (2 ^ 53 + 1) * (grain * second * (2 ^ 53 + 1)) := Nat.mul_le_mul left right
    _ = grain * (first * second * grain * (2 ^ 53 + 1) ^ 2) := by ring
    _ ≤ grain * ((2 ^ 54 - 5) * top * (2 ^ 53 + 1) ^ 2) :=
      Nat.mul_le_mul_left _ (Nat.mul_le_mul_right _ small)
    _ < grain * ((2 ^ 54 - 1) * top * 2 ^ 106) := by
      apply Nat.mul_lt_mul_of_pos_left _ fine
      omega
    _ = _ := by ring

/-- Two numbers that are each relatively off by `2 ^ (-53)` have a product, when that of the exact
ones stays some units below the largest number. -/
theorem mul?_isSome {x y : Binary64} {first second : Nat}
    (left : x.magnitude * 2 ^ 53 ≤ Power.two 1074 * first * (2 ^ 53 + 1))
    (right : y.magnitude * 2 ^ 53 ≤ Power.two 1074 * second * (2 ^ 53 + 1))
    (small : first * second * Power.two 1074 ≤ (2 ^ 54 - 5) * Power.two 2044) :
    (x.mul? y).isSome := by
  have less := product_lt (two_pos 1074) (two_pos 2044) left right small
  obtain ⟨z, found, _⟩ := nearest?_of_lt (x.negative != y.negative)
    (roundedQuotient_lt_ceiling less)
  exact Option.isSome_of_eq_some found

end Binary64

namespace Json.Number

theorem ten_mono {small large : Nat} (less : small ≤ large) : Power.ten small ≤ Power.ten large :=
  Nat.pow_le_pow_right (by decide) less

theorem tenTo_spec {exponent : Nat} (small : exponent ≤ 308) :
    ∃ x, tenTo exponent = some x ∧
      x.magnitude * 2 ^ 53 ≤ Power.two 1074 * Power.ten exponent * (2 ^ 53 + 1) ∧
      Power.two 1074 ≤ x.magnitude := by
  have largest : Power.ten 308 * (2 ^ 53 + 1) < Power.two 1024 * 2 ^ 53 := by decide +kernel
  have power := ten_mono small
  have within := Nat.lt_of_le_of_lt (Nat.mul_le_mul_right (2 ^ 53 + 1) power) largest
  obtain ⟨x, found, upper, lower⟩ := Binary64.ofNat?_spec within
  exact ⟨x, found, upper, lower (Nat.pow_pos (n := exponent) (by decide))⟩

theorem double_lt {n bits : Nat} (small : n < Power.two bits) (room : bits < 2098) :
    2 * n + 1 < Power.two (bits + 1) ∧ 2 * n + 1 < Binary64.ceiling := by
  have grows : 2 * n + 1 < Power.two (bits + 1) := by
    rw [Binary64.two_succ]
    omega
  have power : Power.two (bits + 1) ≤ Power.two 2098 := Binary64.two_mono room
  have limit : Power.two 2098 = Binary64.ceiling := by decide +kernel
  rw [limit] at power
  exact ⟨grows, Nat.lt_of_lt_of_le grows power⟩

theorem scaleDown_isSome {steps bits : Nat} {x : Binary64} (size : Nat)
    (small : x.magnitude < Power.two bits) (room : bits + steps ≤ 2097) :
    (scaleDown steps x size).isSome := by
  induction steps generalizing bits x size with
  | zero => rfl
  | succ steps ih =>
      have later : bits + 1 + steps ≤ 2097 := by omega
      obtain ⟨grows, fits⟩ := double_lt small (by omega)
      rw [scaleDown]
      by_cases last : size ≤ 308
      · obtain ⟨ten, found, _, one⟩ := tenTo_spec last
        obtain ⟨z, divided, _⟩ := Binary64.div?_isSome one fits
        rw [if_pos last, found, Option.bind_some, divided]
        rfl
      · rw [if_neg last]
        by_cases zero : x.isZero = true
        · rw [if_pos zero]
          rfl
        · obtain ⟨ten, found, _, one⟩ := tenTo_spec (Nat.le_refl 308)
          obtain ⟨z, divided, smaller⟩ := Binary64.div?_isSome one fits
          rw [if_neg zero, found, Option.bind_some, divided]
          exact ih (size - 308) (Nat.lt_of_le_of_lt smaller grows) later

/-- A numeral is read when its leading digits, scaled up, stay some units below the largest
number. -/
theorem scaled?_isSome {numeral : Numeral} (coefficient : (leading numeral).coefficient < 2 ^ 64)
    (small : 0 ≤ (leading numeral).scale →
      (leading numeral).coefficient * Power.ten (leading numeral).scale.toNat * Power.two 1074 ≤
        (2 ^ 54 - 5) * Power.two 2044) :
    (scaled? numeral).isSome := by
  unfold scaled?
  dsimp only
  rw [Option.isSome_map]
  generalize (leading numeral).coefficient = digits at coefficient small ⊢
  generalize (leading numeral).scale = scale at small ⊢
  have less : digits * (2 ^ 53 + 1) < 2 ^ 66 * 2 ^ 53 := by omega
  obtain ⟨x, found, upper, lower⟩ := Binary64.ofNat?_spec (Binary64.word_fits coefficient)
  rw [found, Option.bind_some]
  by_cases down : scale < 0
  · rw [if_pos down]
    have below : x.magnitude < Power.two 1140 := by
      apply Nat.lt_of_mul_lt_mul_right (a := 2 ^ 53)
      have same : Power.two 1074 * 2 ^ 66 = Power.two 1140 := by decide +kernel
      rw [← same]
      calc
        x.magnitude * 2 ^ 53 ≤ Power.two 1074 * digits * (2 ^ 53 + 1) := upper
        _ = Power.two 1074 * (digits * (2 ^ 53 + 1)) := Nat.mul_assoc ..
        _ < Power.two 1074 * (2 ^ 66 * 2 ^ 53) := by
          exact Nat.mul_lt_mul_of_pos_left less (Binary64.two_pos 1074)
        _ = _ := (Nat.mul_assoc ..).symm
    exact scaleDown_isSome _ below (by decide)
  · rw [if_neg down]
    have size : scale.natAbs = scale.toNat := by omega
    have bound := small (by omega)
    by_cases once : scale ≤ 308
    · obtain ⟨ten, power, above, _⟩ := tenTo_spec (show scale.natAbs ≤ 308 by omega)
      rw [if_pos once, power, Option.bind_some]
      rw [← size] at bound
      exact Binary64.mul?_isSome upper above bound
    · rw [if_neg once]
      rcases Nat.eq_zero_or_pos digits with rfl | positive
      · rw [Binary64.ofNat?_zero] at found
        cases found
        rfl
      · exfalso
        have power : Power.ten 309 ≤ Power.ten scale.toNat := ten_mono (by omega)
        have beyond : (2 ^ 54 - 5) * Power.two 2044 < Power.ten 309 * Power.two 1074 := by
          decide +kernel
        have least : Power.ten scale.toNat ≤ digits * Power.ten scale.toNat :=
          Nat.le_mul_of_pos_left _ positive
        have product := Nat.mul_le_mul_right (Power.two 1074) (power.trans least)
        exact Nat.lt_irrefl _ (beyond.trans_le (product.trans bound))

/-! ### Leading digits -/

theorem coefficient_pushFraction_lt {start : Leading} (fits : start.coefficient < 2 ^ 64)
    (digits : List Nat) : (start.pushFraction digits).coefficient < 2 ^ 64 := by
  induction digits generalizing start with
  | nil => exact fits
  | cons digit rest ih =>
      rw [Leading.pushFraction]
      split
      · rename_i small
        exact ih small
      · exact fits

theorem scale_pushFraction_le (start : Leading) (digits : List Nat) :
    (start.pushFraction digits).scale ≤ start.scale := by
  induction digits generalizing start with
  | nil => exact Int.le_refl _
  | cons digit rest ih =>
      rw [Leading.pushFraction]
      split
      · have less := ih ⟨start.coefficient * 10 + digit, start.scale - 1⟩
        dsimp only at less
        omega
      · exact Int.le_refl _

theorem pushWhole_spec {start : Leading} (fits : start.coefficient < 2 ^ 64) (digits : List Nat) :
    (digits.foldl Leading.pushWhole start).coefficient < 2 ^ 64 ∧
      (digits.foldl Leading.pushWhole start).scale ≤ start.scale + digits.length := by
  induction digits generalizing start with
  | nil => exact ⟨fits, by simp⟩
  | cons digit rest ih =>
      rw [List.foldl_cons, List.length_cons]
      have step : (start.pushWhole digit).coefficient < 2 ^ 64 ∧
          (start.pushWhole digit).scale ≤ start.scale + 1 := by
        unfold Leading.pushWhole
        split
        · rename_i small
          refine ⟨small.2, ?_⟩
          have same := small.1
          dsimp only
          omega
        · exact ⟨fits, Int.le_refl _⟩
      obtain ⟨coefficient, scale⟩ := ih step.1
      refine ⟨coefficient, ?_⟩
      have more := step.2
      omega

theorem leading_whole (numeral : Numeral) :
    (numeral.whole.foldl Leading.pushWhole ⟨0, 0⟩).coefficient < 2 ^ 64 ∧
      (numeral.whole.foldl Leading.pushWhole ⟨0, 0⟩).scale ≤ 0 + numeral.whole.length :=
  pushWhole_spec (Nat.two_pow_pos 64) numeral.whole

theorem leading_coefficient_lt (numeral : Numeral) : (leading numeral).coefficient < 2 ^ 64 :=
  coefficient_pushFraction_lt (leading_whole numeral).1 _

/-- Without an exponent the scale is at most the number of digits before the point. -/
theorem leading_scale_le {numeral : Numeral} (plain : numeral.exponent = none) :
    (leading numeral).scale ≤ numeral.whole.length := by
  have less := scale_pushFraction_le (numeral.whole.foldl Leading.pushWhole ⟨0, 0⟩) numeral.fraction
  have whole := (leading_whole numeral).2
  unfold leading
  rw [plain]
  dsimp only [Option.getD_none] at whole ⊢
  omega

/-- The digits of a fraction that are left out do not make the leading ones too large. -/
theorem pushFraction_le (start : Leading) (digits : List Nat) :
    ∃ left, (start.pushFraction digits).scale = start.scale - digits.length + (left : Nat) ∧
      (start.pushFraction digits).coefficient * 10 ^ left ≤
        digits.foldl (fun value digit => value * 10 + digit) start.coefficient := by
  induction digits generalizing start with
  | nil => exact ⟨0, by simp [Leading.pushFraction], by simp [Leading.pushFraction]⟩
  | cons digit rest ih =>
      rw [Leading.pushFraction]
      split
      · obtain ⟨left, scale, coefficient⟩ := ih ⟨start.coefficient * 10 + digit, start.scale - 1⟩
        refine ⟨left, ?_, coefficient⟩
        dsimp only at scale
        rw [scale, List.length_cons]
        omega
      · refine ⟨rest.length + 1, by rw [List.length_cons]; omega, ?_⟩
        exact Numeral.le_foldl start.coefficient (digit :: rest)

theorem leading_of_exponent {digit : Nat} (small : digit < 10) (negative : Bool)
    (fraction : List Nat) (exponent : Int) :
    ∃ left, (leading ⟨negative, [digit], fraction, some exponent⟩).scale =
        exponent - fraction.length + (left : Nat) ∧
      (leading ⟨negative, [digit], fraction, some exponent⟩).coefficient * 10 ^ left ≤
        Numeral.ofDigits (digit :: fraction) := by
  have first : Leading.pushWhole ⟨0, 0⟩ digit = ⟨digit, 0⟩ := by
    have fits : 0 * 10 + digit < 0x10000000000000000 := by omega
    unfold Leading.pushWhole
    rw [if_pos ⟨rfl, fits⟩]
    simp
  obtain ⟨left, scale, coefficient⟩ := pushFraction_le ⟨digit, 0⟩ fraction
  refine ⟨left, ?_, ?_⟩
  · unfold leading
    rw [List.foldl_cons, List.foldl_nil, first]
    dsimp only [Option.getD_some] at scale ⊢
    omega
  · unfold leading Numeral.ofDigits
    rw [List.foldl_cons, List.foldl_nil, first, List.foldl_cons, Nat.zero_mul, Nat.zero_add]
    exact coefficient

/-! ### Texts of doubles -/

theorem ofNumeral?_isSome {numeral : Numeral} (scaled : (scaled? numeral).isSome) :
    (ofNumeral? numeral).isSome := by
  have mapped : ((scaled? numeral).map double).isSome := by rwa [Option.isSome_map]
  unfold ofNumeral?
  extract_lets n value
  split
  · split
    · rfl
    · exact mapped
  · exact mapped

theorem scaled?_isSome_of_short {numeral : Numeral} (plain : numeral.exponent = none)
    (short : numeral.whole.length ≤ 16) : (scaled? numeral).isSome := by
  have coefficient := leading_coefficient_lt numeral
  have scale := leading_scale_le plain
  have power : Power.ten (leading numeral).scale.toNat ≤ Power.ten 16 := ten_mono (by omega)
  have product := Nat.mul_le_mul (Nat.le_of_lt coefficient) power
  refine scaled?_isSome coefficient fun _ => ?_
  have within : 2 ^ 64 * Power.ten 16 * Power.two 1074 ≤ (2 ^ 54 - 5) * Power.two 2044 := by
    decide +kernel
  exact (Nat.mul_le_mul_right _ product).trans within

/-- The values that round to a number lie below the largest number, if it is not one of the two
largest itself. -/
theorem high_le {x : Binary64} (below : x.significand < 2 ^ 53 - 2 ∨ x.unit < 2045) :
    x.cell.high ≤ 4 * ((2 ^ 54 - 5) * Power.two 2044) := by
  change 4 * (x.significand * Power.two x.unit) + 2 * Power.two x.unit ≤ _
  have size := x.significand_lt
  rcases Nat.lt_or_ge x.unit 2045 with small | large
  · have power : Power.two x.unit ≤ Power.two 2044 := Binary64.two_mono (by omega)
    have product : x.significand * Power.two x.unit ≤ x.significand * Power.two 2044 :=
      Nat.mul_le_mul_left _ power
    have most : x.significand * Power.two 2044 ≤ 2 ^ 53 * Power.two 2044 :=
      Nat.mul_le_mul_right _ (by omega)
    generalize Power.two 2044 = top at power product most ⊢
    omega
  · have unit : x.unit = 2044 + 1 := by
      have bound := x.unit_le
      omega
    have less : x.significand ≤ 2 ^ 53 - 3 := by omega
    rw [unit, Binary64.two_succ]
    have most := Nat.mul_le_mul_right (Power.two 2044 * 2) less
    generalize Power.two 2044 = top at most ⊢
    omega

/-- Leading digits of the shortest decimal of a number, scaled up, do not exceed what rounds to
it. -/
theorem scaled_le {x : Binary64} {coefficient left : Nat} {scale : Int}
    (leads : coefficient * 10 ^ left ≤ x.shortest.coefficient)
    (same : scale = x.shortest.scale + (left : Nat)) (natural : 0 ≤ scale) :
    4 * (coefficient * Power.ten scale.toNat * Power.two 1074) ≤ x.cell.high := by
  have upper := Decimal.atMost_iff.mp (Binary64.atMost_shortest x)
  rw [Binary64.two_1076] at upper
  generalize x.shortest.scale = exponent at upper same
  generalize x.shortest.coefficient = digits at upper leads
  generalize x.cell.high = high at upper ⊢
  generalize Power.two 1074 = grain at upper ⊢
  have exponents : scale.toNat + (-exponent).toNat = left + exponent.toNat := by omega
  have positive : 0 < 10 ^ (-exponent).toNat := Nat.pow_pos (by decide)
  have power : 10 ^ scale.toNat * 10 ^ (-exponent).toNat = 10 ^ left * 10 ^ exponent.toNat := by
    rw [← Nat.pow_add, ← Nat.pow_add, exponents]
  apply Nat.le_of_mul_le_mul_right _ positive
  calc
    4 * (coefficient * 10 ^ scale.toNat * grain) * 10 ^ (-exponent).toNat =
        4 * grain * coefficient * (10 ^ scale.toNat * 10 ^ (-exponent).toNat) := by ring
    _ = 4 * grain * (coefficient * 10 ^ left) * 10 ^ exponent.toNat := by rw [power]; ring
    _ ≤ 4 * grain * digits * 10 ^ exponent.toNat :=
      Nat.mul_le_mul_right _ (Nat.mul_le_mul_left _ leads)
    _ = digits * (4 * grain) * 10 ^ exponent.toNat := by ring
    _ ≤ _ := upper

theorem ofNumeral?_double_of_lt {x : Binary64}
    (below : x.significand < 2 ^ 53 - 2 ∨ x.unit < 2045) :
    (ofNumeral? (Number.double x).numeral).isSome := by
  obtain ⟨numeral, read, reads⟩ := DoubleStyle.read?_compact x
  have written : (Number.double x).numeral = numeral := by
    unfold Number.numeral Number.chars
    rw [read, Option.getD_some]
  rw [written]
  apply ofNumeral?_isSome
  cases reads with
  | positional plain short => exact scaled?_isSome_of_short plain short
  | scientific digit fraction small value shape =>
      obtain ⟨left, scale, leads⟩ := leading_of_exponent small x.negative fraction
        (fraction.length + x.shortest.scale)
      rw [← shape] at scale leads
      rw [value] at leads
      refine scaled?_isSome (leading_coefficient_lt numeral) fun natural => ?_
      have same : (leading numeral).scale = x.shortest.scale + (left : Nat) := by omega
      have upper := (scaled_le leads same natural).trans (high_le below)
      exact Nat.le_of_mul_le_mul_left upper (by decide)

/-- The text of every double is read as a number. -/
theorem ofNumeral?_double (x : Binary64) : (ofNumeral? (Number.double x).numeral).isSome := by
  by_cases below : x.significand < 2 ^ 53 - 2 ∨ x.unit < 2045
  · exact ofNumeral?_double_of_lt below
  · have top : x.unit = 2045 := by
      have bound := x.unit_le
      omega
    have two : x.significand = 0x1FFFFFFFFFFFFE ∨ x.significand = 0x1FFFFFFFFFFFFF := by
      have bound := x.significand_lt
      omega
    obtain ⟨negative, significand, unit, less, normal, least⟩ := x
    dsimp only at top two
    subst top
    clear below
    revert less normal least
    rcases two with rfl | rfl
    · cases negative <;> decide +kernel
    · cases negative <;> decide +kernel

end Json.Number

end PresenceGateway
