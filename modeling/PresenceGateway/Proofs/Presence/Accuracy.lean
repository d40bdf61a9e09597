import Mathlib.Data.Rat.Floor
import PresenceGateway.Presence.Accuracy
import PresenceGateway.Proofs.Decimal.NumeralRounding
import PresenceGateway.Proofs.Decimal.Spelling
/-!
Accuracies in terms of the values that are written.

A value is rounded to a number before its fraction is dropped. The number is never below an integer
that the value reaches. It reaches the next integer only when that is nearer than rounding may be off,
which it is not for a value of 15 digits, so neither step shows in the result.
-/
namespace PresenceGateway.Accuracy

open Binary64 (Rounds)

/-! ### Integer parts of rounded values -/

/-- Some numeral with so many digits, at most, has the value. -/
def HasDigits (count : Nat) (v : ℚ) : Prop :=
  ∃ coefficient : Nat, ∃ scale : Int, coefficient < 10 ^ count ∧ |v| = coefficient * 10 ^ scale

theorem hasDigits_of_length {numeral : Numeral} {count : Nat}
    (small : ∀ digit ∈ numeral.whole ++ numeral.fraction, digit < 10)
    (short : numeral.significantDigits.length ≤ count) : HasDigits count numeral.value := by
  refine ⟨numeral.coefficient, numeral.scale, ?_, numeral.abs_value⟩
  exact (numeral.coefficient_lt small).trans_le (Nat.pow_le_pow_right (by decide) short)

theorem value_of_isPlain {numeral : Numeral} (plain : numeral.isPlain = true) :
    ∃ n : Int, numeral.value = n := by
  unfold Numeral.isPlain at plain
  rw [Bool.and_eq_true, List.isEmpty_iff, Option.isNone_iff_eq_none] at plain
  have scale : numeral.scale = 0 := by
    rw [Numeral.scale, plain.1, plain.2]
    rfl
  refine ⟨if numeral.negative then -numeral.coefficient else numeral.coefficient, ?_⟩
  rw [Numeral.value, Numeral.size, scale, zpow_zero, mul_one, signed]
  split <;> simp

theorem half_smallest_le : 1 / (2 * (Power.two 1074 : ℚ)) ≤ 1 / 2 ^ 65 := by
  have power : Power.two 64 ≤ Power.two 1074 := Binary64.two_mono (by decide)
  have cast : ((Power.two 64 : Nat) : ℚ) ≤ Power.two 1074 := Nat.cast_le.mpr power
  rw [Binary64.cast_two] at cast
  apply one_div_le_one_div_of_le (by norm_num)
  linarith

/-- A value that is no integer has places after its point, so that moving the point behind them all
gives its digits. -/
theorem HasDigits.exists_places {count : Nat} {v : ℚ} (digits : HasDigits count v) (nonneg : 0 ≤ v)
    (fraction : ∀ n : Int, v ≠ n) :
    ∃ coefficient places : Nat, coefficient < 10 ^ count ∧ v * 10 ^ places = coefficient := by
  obtain ⟨coefficient, scale, few, same⟩ := digits
  rw [abs_of_nonneg nonneg] at same
  have down : scale < 0 := by
    apply lt_of_not_ge
    intro up
    apply fraction (coefficient * 10 ^ scale.toNat)
    rw [same]
    push_cast
    rw [← zpow_natCast, Int.toNat_of_nonneg up]
  refine ⟨coefficient, (-scale).toNat, few, ?_⟩
  rw [same, mul_assoc, ← zpow_natCast, Int.toNat_of_nonneg (by omega), ← zpow_add₀ (by norm_num),
    add_neg_cancel, zpow_zero, mul_one]

/-- A value of 15 digits is farther below the next integer than rounding may be off. -/
theorem floor_gap {v : ℚ} (nonneg : 0 ≤ v) (digits : HasDigits 15 v) (fraction : ∀ n : Int, v ≠ n) :
    |v| / 2 ^ 53 + 1 / (2 * Power.two 1074) < ⌊v⌋ + 1 - v := by
  have tiny := half_smallest_le
  have next := Int.lt_floor_add_one v
  rw [abs_of_nonneg nonneg]
  rcases lt_or_ge v (1 / 2) with small | large
  · have floor : (0 : ℚ) ≤ ⌊v⌋ := mod_cast Int.floor_nonneg.mpr nonneg
    linarith
  · obtain ⟨coefficient, places, few, scaled⟩ := digits.exists_places nonneg fraction
    have positive : (0 : ℚ) < 10 ^ places := by positivity
    -- both sides of the last place are integers, so the next one is a whole unit of it away
    have reached : (coefficient : Int) + 1 ≤ (⌊v⌋ + 1) * 10 ^ places := by
      have less := mul_lt_mul_of_pos_right next positive
      rw [scaled] at less
      exact_mod_cast less
    have reachedCast : (coefficient : ℚ) + 1 ≤ (⌊v⌋ + 1) * 10 ^ places := mod_cast reached
    have fewCast : (coefficient : ℚ) < 10 ^ 15 := mod_cast few
    have places_le : (10 : ℚ) ^ places ≤ 2 * coefficient := by
      have half := mul_le_mul_of_nonneg_right large positive.le
      rw [scaled] at half
      linarith
    have part := mul_le_mul tiny places_le positive.le (by norm_num)
    apply lt_of_mul_lt_mul_right _ positive.le
    calc
      _ = (coefficient : ℚ) / 2 ^ 53 + 1 / (2 * Power.two 1074) * 10 ^ places := by
        rw [add_mul, div_mul_eq_mul_div, scaled]
      _ < 1 := by linarith
      _ ≤ _ := by
        rw [sub_mul, scaled]
        linarith

/-- Rounding does not show in the integer part. -/
theorem floor_eq {x : Binary64} {v : ℚ} (rounds : x.Rounds v) (nonneg : 0 ≤ v) (small : v < 2 ^ 32)
    (exact : HasDigits 15 v ∨ ∃ n : Int, v = n) : ⌊x.value⌋ = ⌊v⌋ := by
  have floor := Int.floor_nonneg.mpr nonneg
  have below : ⌊v⌋ < 2 ^ 32 := by
    rw [Int.floor_lt]
    exact_mod_cast small
  obtain ⟨n, same⟩ := Int.eq_ofNat_of_zero_le floor
  have word : n < 2 ^ 53 := by omega
  by_cases whole : ∃ n : Int, v = n
  · obtain ⟨m, rfl⟩ := whole
    rw [Int.floor_intCast] at same
    have value : x.value = n := by
      apply Binary64.value_eq_natural rounds.nearest word
      rw [same]
      exact Int.cast_natCast n
    rw [value, same, Int.floor_natCast, Int.floor_intCast]
  · have gap := floor_gap nonneg (exact.resolve_right whole) (fun n here => whole ⟨n, here⟩)
    have lower := Binary64.natural_le rounds.nearest word (by
      have le := Int.floor_le v
      rw [same] at le
      exact_mod_cast le)
    rw [Int.floor_eq_iff, same]
    have upper := (le_abs_self _).trans_lt (rounds.close.trans_lt gap)
    rw [same] at upper
    refine ⟨by exact_mod_cast lower, by linarith⟩

def truncate (v : ℚ) : Int :=
  if 0 ≤ v then ⌊v⌋ else ⌈v⌉

/-- The whole metres of a value, as far as an accuracy can hold them. -/
def metres (v : ℚ) : Int :=
  max 0 (min (truncate v) maximum)

theorem metres_of_rounds {x : Binary64} {v : ℚ} (rounds : x.Rounds v)
    (exact : HasDigits 15 v ∨ ∃ n : Int, v = n) :
    max 0 (min ⌊x.value⌋ (maximum : Int)) = metres v := by
  unfold metres truncate
  split
  · rename_i nonneg
    rcases lt_or_ge v (2 ^ 32) with small | large
    · rw [floor_eq rounds nonneg small exact]
    · have reached : ((2 ^ 32 : Nat) : ℚ) ≤ v := by exact_mod_cast large
      have whole := Binary64.natural_le rounds.nearest (by decide) reached
      have value : 2 ^ 32 ≤ ⌊x.value⌋ := Int.le_floor.mpr (by exact_mod_cast whole)
      have same : 2 ^ 32 ≤ ⌊v⌋ := Int.le_floor.mpr (by exact_mod_cast large)
      unfold maximum
      omega
  · rename_i negative
    have below := le_of_not_ge negative
    have value := Int.floor_nonpos (Binary64.value_nonpos rounds.nearest below)
    have same : ⌈v⌉ ≤ 0 := Int.ceil_le.mpr (by exact_mod_cast below)
    omega

theorem clamp_eq (x : Binary64) : (clamp x : Int) = max 0 (min ⌊x.value⌋ (maximum : Int)) := by
  unfold clamp Binary64.value signed
  split
  · have below : -x.size ≤ 0 := neg_nonpos.mpr x.size_nonneg
    have floor := Int.floor_nonpos below
    omega
  · have floor : ⌊x.size⌋ = x.truncated := by
      rw [Binary64.size, Binary64.truncated]
      exact Rat.floor_natCast_div_natCast _ _
    rw [floor]
    omega

/-! ### Numerals in texts -/

section Texts

variable {spelling : Numeral.Spelling} {text : String} (written : spelling.TrimmedFrom text)

include written

theorem ofNumeralText?_eq : ofNumeralText? text = Binary64.ofNumeral? spelling.numeral := by
  rw [ofNumeralText?, Numeral.read?_of_trimmedFrom written, Option.bind_some]

theorem parse_text
    (exact : HasDigits 15 spelling.numeral.value ∨ ∃ n : Int, spelling.numeral.value = n)
    (fits : |spelling.numeral.value| < Binary64.overflow) :
    (parse (some (.string text)) : Int) = metres spelling.numeral.value := by
  rw [Numeral.abs_value] at fits
  obtain ⟨x, found, rounds⟩ := Binary64.ofNumeral?_of_lt spelling.digits_lt fits
  rw [parse, number?, ofNumeralText?_eq written, found]
  exact (clamp_eq x).trans (metres_of_rounds rounds exact)

theorem parse_text_of_overflow (large : Binary64.overflow ≤ |spelling.numeral.value|) :
    parse (some (.string text)) = 0 := by
  rw [Numeral.abs_value] at large
  rw [parse, number?, ofNumeralText?_eq written,
    Binary64.ofNumeral?_of_ge spelling.digits_lt large]

end Texts

theorem parse_text_of_no_spelling {text : String}
    (other : ∀ spelling : Numeral.Spelling, ¬ spelling.TrimmedFrom text) :
    parse (some (.string text)) = 0 := by
  have unread : Numeral.read? (Text.trimChars text.toList) = none := by
    rw [Option.eq_none_iff_forall_not_mem]
    intro numeral read
    obtain ⟨spelling, written⟩ := Numeral.exists_trimmedFrom read
    exact other spelling written
  rw [parse, number?, ofNumeralText?, unread]
  rfl

/-! ### JSON numbers -/

theorem signed_natAbs (value : Int) : signed (decide (value < 0)) value.natAbs = value := by
  unfold signed
  by_cases negative : value < 0
  · rw [if_pos (decide_eq_true negative), Nat.cast_natAbs, abs_of_neg negative, Int.cast_neg, neg_neg]
  · rw [if_neg (by simpa using negative), Nat.cast_natAbs, abs_of_nonneg (Int.not_lt.mp negative)]

/-- A 64-bit integer is held as a number to which it can be rounded. -/
theorem rounds_integer (value : Int)
    (fits : -0x8000000000000000 ≤ value ∧ value < 0x10000000000000000) :
    (Json.Number.integer value fits).toBinary64.Rounds value := by
  have word : value.natAbs < 2 ^ 64 := by omega
  have small : ((value.natAbs : ℚ) / (1 : Nat)) < Binary64.overflow := by
    rw [Nat.cast_one, div_one]
    exact lt_trans (by exact_mod_cast word) Binary64.word_lt_overflow
  obtain ⟨x, found, same, nearest, close⟩ := Binary64.ofFraction?_of_lt false Nat.one_pos small
  rw [Nat.cast_one, div_one] at nearest close
  rw [Json.Number.toBinary64, Binary64.ofNat?, found, Option.map_some, Option.getD_some]
  have sign : (if value < 0 then x.neg else x).negative = decide (value < 0) := by
    split
    · rename_i negative
      rw [Binary64.neg, same, decide_eq_true negative]
      rfl
    · rename_i natural
      rw [same, decide_eq_false natural]
  have size : (if value < 0 then x.neg else x).size = x.size := by
    split <;> rfl
  have rounds := Binary64.rounds_signed (x := if value < 0 then x.neg else x)
    (Nat.cast_nonneg value.natAbs) (size ▸ nearest) (size ▸ close)
  rwa [sign, signed_natAbs] at rounds

theorem parse_number {number : Json.Number} {v : ℚ} (rounds : number.toBinary64.Rounds v)
    (exact : HasDigits 15 v ∨ ∃ n : Int, v = n) :
    (parse (some (.number number)) : Int) = metres v :=
  (clamp_eq _).trans (metres_of_rounds rounds exact)

theorem metres_intCast (value : Int) : metres value = max 0 (min value maximum) := by
  unfold metres truncate
  rw [Int.floor_intCast, Int.ceil_intCast, ite_self]

/-! ### All of it -/

/-- The accuracy of a value of at most 15 digits, or of an integer, is that value truncated toward
zero and kept within the range of accuracies. Texts spell the value, with blanks around the numeral,
and JSON numbers are as near to it as any. From `2 ^ 1024 - 2 ^ 970` on there is no number for a value,
so its texts are zero, like those without a numeral and everything else. -/
theorem parse_exact :
    (∀ spelling : Numeral.Spelling,
      (HasDigits 15 spelling.numeral.value ∨ ∃ n : Int, spelling.numeral.value = n) →
      |spelling.numeral.value| < 2 ^ 1024 - 2 ^ 970 →
        (∀ text, spelling.TrimmedFrom text →
          (parse (some (.string text)) : Int) = metres spelling.numeral.value) ∧
        ∀ number : Json.Number, number.toBinary64.IsNearest spelling.numeral.value →
          (parse (some (.number number)) : Int) = metres spelling.numeral.value) ∧
    (∀ value fits,
      (parse (some (.number (.integer value fits))) : Int) = max 0 (min value maximum)) ∧
    (∀ spelling : Numeral.Spelling, 2 ^ 1024 - 2 ^ 970 ≤ |spelling.numeral.value| →
      Binary64.ofNumeral? spelling.numeral = none ∧
        ∀ text, spelling.TrimmedFrom text → parse (some (.string text)) = 0) ∧
    (∀ text, (∀ spelling : Numeral.Spelling, ¬ spelling.TrimmedFrom text) →
      parse (some (.string text)) = 0) ∧
    (∀ text : String, (∀ c ∈ text.toList, Numeral.isDigit c = false) →
      parse (some (.string text)) = 0) ∧
    ∀ uncertainty, (∀ text, uncertainty ≠ some (.string text)) →
      (∀ number, uncertainty ≠ some (.number number)) → parse uncertainty = 0 := by
  refine ⟨fun spelling exact fits => ⟨fun text written => parse_text written exact fits, ?_⟩, ?_, ?_,
    fun text other => parse_text_of_no_spelling other, ?_, ?_⟩
  · intro number nearest
    rw [Numeral.abs_value] at fits
    obtain ⟨x, _, rounds⟩ := Binary64.ofNumeral?_of_lt spelling.digits_lt fits
    exact parse_number (rounds.of_nearest nearest) exact
  · intro value fits
    rw [parse_number (rounds_integer value fits) (.inr ⟨value, rfl⟩), metres_intCast]
  · intro spelling large
    refine ⟨?_, fun text written => parse_text_of_overflow written large⟩
    rw [Numeral.abs_value] at large
    exact Binary64.ofNumeral?_of_ge spelling.digits_lt large
  · intro text noDigit
    apply parse_text_of_no_spelling
    rintro spelling ⟨before, after, _, _, shape⟩
    obtain ⟨c, inside, digit⟩ := spelling.exists_digit
    have held : c ∈ text.toList := by
      rw [shape]
      exact List.mem_append_right _ (List.mem_append_left _ inside)
    rw [noDigit c held] at digit
    cases digit
  · intro uncertainty noText noNumber
    cases uncertainty with
    | none => rfl
    | some value =>
        cases value with
        | string text => exact absurd rfl (noText text)
        | number number => exact absurd rfl (noNumber number)
        | null => rfl
        | bool _ => rfl
        | array _ => rfl
        | object _ => rfl

def belowLargest : Numeral.Spelling :=
  { sign := .plus
    whole := "4294967294".toList
    fraction := some "99999".toList
    exponent := none
    all := List.all_eq_true.mp (by decide)
    nonempty := by decide }

theorem value_belowLargest : belowLargest.numeral.value = 429496729499999 / 100000 := by
  have coefficient : belowLargest.numeral.coefficient = 429496729499999 := by decide +kernel
  have scale : belowLargest.numeral.scale = -5 := by decide +kernel
  rw [Numeral.value, Numeral.size, coefficient, scale]
  change (429496729499999 : ℕ) * (10 : ℚ) ^ (-5 : Int) = _
  norm_num

theorem metres_belowLargest : metres belowLargest.numeral.value = 4294967294 := by
  have floor : ⌊(429496729499999 / 100000 : ℚ)⌋ = 4294967294 := by
    rw [Int.floor_eq_iff]
    norm_num
  rw [value_belowLargest, metres, truncate, if_pos (by norm_num), floor]
  rfl

def nines : Numeral.Spelling :=
  { sign := .none
    whole := List.replicate 19 '9'
    fraction := none
    exponent := none
    all := List.all_eq_true.mp (by decide)
    nonempty := by decide }

theorem value_nines : nines.numeral.value = 9999999999999999999 := by
  have coefficient : nines.numeral.coefficient = 9999999999999999999 := by decide +kernel
  rw [Numeral.value, Numeral.size, coefficient]
  change (9999999999999999999 : Nat) * (10 : ℚ) ^ (0 : Int) = _
  norm_num

theorem metres_nines : metres nines.numeral.value = 0xFFFFFFFF := by
  have integer := metres_intCast 9999999999999999999
  rw [value_nines]
  exact_mod_cast integer

theorem parse_exact_of_marks :
    (belowLargest.TrimmedFrom "\u00A0+4294967294.99999\n" ∧
      parse (some (.string "\u00A0+4294967294.99999\n")) = 4294967294) ∧
    (∃ number : Json.Number, number.toBinary64.IsNearest belowLargest.numeral.value ∧
      parse (some (.number number)) = 4294967294) ∧
    nines.TrimmedFrom "9999999999999999999" ∧
      parse (some (.string "9999999999999999999")) = 0xFFFFFFFF := by
  have written : belowLargest.TrimmedFrom "\u00A0+4294967294.99999\n" :=
    ⟨['\u00A0'], ['\n'], List.all_eq_true.mp (by decide), List.all_eq_true.mp (by decide), by decide⟩
  have short : belowLargest.numeral.significantDigits.length ≤ 15 := by decide +kernel
  have fits : |belowLargest.numeral.value| < 2 ^ 1024 - 2 ^ 970 := by
    refine lt_trans ?_ Binary64.word_lt_overflow
    rw [value_belowLargest]
    norm_num
  obtain ⟨text, numbers⟩ := parse_exact.1 belowLargest
    (.inl (hasDigits_of_length belowLargest.digits_lt short)) fits
  rw [metres_belowLargest] at text numbers
  rw [Numeral.abs_value] at fits
  obtain ⟨x, _, rounds⟩ := Binary64.ofNumeral?_of_lt belowLargest.digits_lt fits
  have plain : nines.TrimmedFrom "9999999999999999999" :=
    ⟨[], [], List.all_eq_true.mp (by decide), List.all_eq_true.mp (by decide), by decide⟩
  have within : |nines.numeral.value| < 2 ^ 1024 - 2 ^ 970 := by
    refine lt_trans ?_ Binary64.word_lt_overflow
    rw [value_nines]
    norm_num
  have beyond := (parse_exact.1 nines (.inr (value_of_isPlain (by decide))) within).1 _ plain
  rw [metres_nines] at beyond
  refine ⟨⟨written, by exact_mod_cast text _ written⟩, ?_, plain, by exact_mod_cast beyond⟩
  exact ⟨.double x, rounds.nearest, by exact_mod_cast numbers (.double x) rounds.nearest⟩

end PresenceGateway.Accuracy
