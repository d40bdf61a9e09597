import Mathlib.Tactic.Ring
import PresenceGateway.Decimal.Shortest
import PresenceGateway.Proofs.Decimal.Spelling
/-!
The shortest decimal of a number does not exceed the values that round to it, and its text is a
numeral of its digits: with a point where it is positional, and else with one digit before the point
and an exponent.
-/
namespace PresenceGateway

namespace Decimal

theorem atMost_iff {d : Decimal} {bound : Nat} : d.atMost false bound = true ↔
    d.coefficient * Power.two 1076 * 10 ^ d.scale.toNat ≤ bound * 10 ^ (-d.scale).toNat := by
  unfold atMost Power.ten
  rw [if_neg (by decide), decide_eq_true_eq]
  exact Iff.rfl

theorem atMost_of_strict {strict : Bool} {d : Decimal} {bound : Nat}
    (below : d.atMost strict bound = true) : d.atMost false bound = true := by
  cases strict with
  | false => exact below
  | true =>
      unfold atMost at below ⊢
      rw [if_pos rfl, decide_eq_true_eq] at below
      rw [if_neg (by decide), decide_eq_true_eq]
      exact Nat.le_of_lt below

/-- Leaving out zeros at the end does not change the value. -/
theorem atMost_strip {d : Decimal} {bound : Nat} (below : d.atMost false bound = true)
    (zeros : Nat) : (d.strip zeros).atMost false bound = true := by
  induction zeros generalizing d with
  | zero => exact below
  | succ zeros ih =>
      rw [strip]
      split
      · rename_i ends
        apply ih
        obtain ⟨tenth, whole⟩ := Nat.dvd_of_mod_eq_zero ends.1
        rw [atMost_iff] at below ⊢
        dsimp only
        rw [whole] at below ⊢
        rw [Nat.mul_div_cancel_left _ (by decide)]
        generalize Power.two 1076 = grain at below ⊢
        rcases Int.lt_or_le d.scale 0 with negative | natural
        · obtain ⟨size, same⟩ := Int.eq_negSucc_of_lt_zero negative
          rw [same] at below ⊢
          have here : (Int.negSucc size).toNat = 0 := rfl
          have there : (-Int.negSucc size).toNat = size + 1 := rfl
          have next : (Int.negSucc size + 1).toNat = 0 := by omega
          have less : (-(Int.negSucc size + 1)).toNat = size := by omega
          rw [here, there, Nat.pow_zero, Nat.mul_one, Nat.pow_succ] at below
          rw [next, less, Nat.pow_zero, Nat.mul_one]
          apply Nat.le_of_mul_le_mul_left _ (by decide : 0 < 10)
          calc
            10 * (tenth * grain) = 10 * tenth * grain := by ring
            _ ≤ bound * (10 ^ size * 10) := below
            _ = 10 * (bound * 10 ^ size) := by ring
        · have here : (-d.scale).toNat = 0 := by omega
          have next : (-(d.scale + 1)).toNat = 0 := by omega
          have more : (d.scale + 1).toNat = d.scale.toNat + 1 := by omega
          rw [here] at below
          rw [next, more, Nat.pow_succ]
          calc
            tenth * grain * (10 ^ d.scale.toNat * 10) =
              10 * tenth * grain * 10 ^ d.scale.toNat := by ring
            _ ≤ _ := below
      · exact below

end Decimal

namespace Binary64

theorem two_1076 : Power.two 1076 = 4 * Power.two 1074 := by decide +kernel

theorem atMost_below (x : Binary64) (scale : Int) :
    (x.below scale).atMost false x.cell.high = true := by
  rw [Decimal.atMost_iff, two_1076]
  unfold below cell Power.ten
  dsimp only
  generalize Power.two 1074 = grain
  have quotient := Nat.div_mul_le_self (x.magnitude * Nat.pow 10 (-scale).toNat)
    (grain * Nat.pow 10 scale.toNat)
  generalize x.magnitude * Nat.pow 10 (-scale).toNat / (grain * Nat.pow 10 scale.toNat) =
    coefficient at quotient ⊢
  calc
    coefficient * (4 * grain) * 10 ^ scale.toNat =
      4 * (coefficient * (grain * 10 ^ scale.toNat)) := by ring
    _ ≤ 4 * (x.magnitude * 10 ^ (-scale).toNat) := Nat.mul_le_mul_left 4 quotient
    _ = 4 * x.magnitude * 10 ^ (-scale).toNat := by ring
    _ ≤ _ := Nat.mul_le_mul_right _ (Nat.le_add_right _ _)

theorem atMost_of_holds {cell : Cell} {d : Decimal} (holds : cell.holds d = true) :
    d.atMost false cell.high = true := by
  unfold Cell.holds at holds
  exact Decimal.atMost_of_strict (Bool.and_eq_true_iff.mp holds).2

theorem atMost_of_onGrid {x : Binary64} {scale : Int} {d : Decimal}
    (found : x.onGrid scale = some d) : d.atMost false x.cell.high = true := by
  have lower := atMost_below x scale
  unfold onGrid at found
  dsimp only at found
  split at found
  · cases found
    exact lower
  · rename_i upper
    cases found
    exact atMost_of_holds upper
  · cases found
  · rename_i upper
    have higher := atMost_of_holds upper
    split at found
    · cases found
      exact lower
    · split at found
      · cases found
        exact higher
      · split at found
        · cases found
          exact lower
        · cases found
          exact higher

theorem atMost_search (x : Binary64) (tries : Nat) (scale : Int) :
    (x.search tries scale).atMost false x.cell.high = true := by
  induction tries generalizing scale with
  | zero => exact atMost_below x scale
  | succ tries ih =>
      rw [search]
      split
      · rename_i found
        exact atMost_of_onGrid found
      · exact ih (scale - 1)

/-- The shortest decimal lies at most half a unit above the number. -/
theorem atMost_shortest (x : Binary64) : x.shortest.atMost false x.cell.high = true :=
  Decimal.atMost_strip (atMost_search x 20 x.leadingExponent) 20

end Binary64

/-! ### The text of a number -/

namespace DoubleStyle

open Numeral (isDigit digitValue Exponent Sign Spelling)

theorem isDigit_of_mem_zeros {c : Char} {count : Nat} (inside : c ∈ List.replicate count '0') :
    isDigit c = true := by
  rw [List.eq_of_mem_replicate inside]
  rfl

/-- Positional digits have a point with digits on both sides. -/
theorem positionalText_eq {digits : List Char} (all : ∀ c ∈ digits, isDigit c = true)
    (nonempty : digits ≠ []) (position : Int) :
    ∃ whole fraction, positionalText digits position = whole ++ '.' :: fraction ∧ whole ≠ [] ∧
      (whole.length : Int) ≤ max 1 position ∧ (∀ c ∈ whole, isDigit c = true) ∧
      ∀ c ∈ fraction, isDigit c = true := by
  unfold positionalText
  by_cases small : position ≤ 0
  · rw [if_pos small]
    refine ⟨['0'], List.replicate (-position).toNat '0' ++ digits, rfl, by simp, ?_, ?_, ?_⟩
    · simp
    · intro c inside
      rw [List.mem_singleton.mp inside]
      rfl
    · intro c inside
      rcases List.mem_append.mp inside with zero | digit
      · exact isDigit_of_mem_zeros zero
      · exact all c digit
  · rw [if_neg small]
    dsimp only
    by_cases short : digits.length ≤ position.toNat
    · rw [if_pos short]
      refine ⟨digits ++ List.replicate (position.toNat - digits.length) '0', ['0'], rfl, ?_, ?_, ?_,
        ?_⟩
      · exact List.append_ne_nil_of_left_ne_nil nonempty _
      · rw [List.length_append, List.length_replicate]
        omega
      · intro c inside
        rcases List.mem_append.mp inside with digit | zero
        · exact all c digit
        · exact isDigit_of_mem_zeros zero
      · intro c inside
        rw [List.mem_singleton.mp inside]
        rfl
    · rw [if_neg short]
      refine ⟨digits.take position.toNat, digits.drop position.toNat, rfl, ?_, ?_, ?_, ?_⟩
      · intro empty
        have length := congrArg List.length empty
        rw [List.length_take, List.length_nil] at length
        omega
      · rw [List.length_take]
        omega
      · exact fun c inside => all c (List.mem_of_mem_take inside)
      · exact fun c inside => all c (List.mem_of_mem_drop inside)

/-- What is read of the text of a number: a few digits before a point, or the digits of its shortest
decimal with an exponent. -/
inductive Reads (x : Binary64) (numeral : Numeral) : Prop where
  | positional : numeral.exponent = none → numeral.whole.length ≤ 16 → Reads x numeral
  | scientific (digit : Nat) (fraction : List Nat) : digit < 10 →
      Numeral.ofDigits (digit :: fraction) = x.shortest.coefficient →
      numeral = ⟨x.negative, [digit], fraction, some (fraction.length + x.shortest.scale)⟩ →
      Reads x numeral

theorem read?_positional (x : Binary64) {digits : List Char}
    (all : ∀ c ∈ digits, isDigit c = true) (nonempty : digits ≠ []) {position : Int}
    (low : position ≤ 16) :
    ∃ numeral, Numeral.read? ((if x.negative then ['-'] else []) ++
      positionalText digits position) = some numeral ∧ Reads x numeral := by
  obtain ⟨whole, fraction, written, some_, size, left, right⟩ :=
    positionalText_eq all nonempty position
  have both : ∀ c ∈ whole ++ (some fraction).getD [], isDigit c = true := fun c inside =>
    (List.mem_append.mp inside).elim (left c) (right c)
  have read := Numeral.read?_chars ⟨.ofNegative x.negative, whole, some fraction, none, both,
    List.append_ne_nil_of_left_ne_nil some_ _⟩
  rw [Spelling.chars, Spelling.pointChars, Spelling.exponentChars] at read
  dsimp only [Option.elim_some, Option.elim_none] at read
  rw [Sign.chars_ofNegative, List.append_nil] at read
  rw [written]
  refine ⟨_, read, .positional rfl ?_⟩
  change (whole.map digitValue).length ≤ 16
  rw [List.length_map]
  omega

theorem exponentText_eq (first : Char) (more : List Char) (exponent : Int) :
    exponentText (first :: more) exponent =
      first :: ((if more.isEmpty then [] else '.' :: more) ++
        'e' :: (if exponent < 0 then '-' else '+') :: Decimal.digits exponent.natAbs) := by
  cases more <;> rfl

theorem read?_scientific (x : Binary64) {first : Char} {more : List Char}
    (shape : Decimal.digits x.shortest.coefficient = first :: more) :
    ∃ numeral, Numeral.read? ((if x.negative then ['-'] else []) ++
      exponentText (first :: more) (more.length + x.shortest.scale)) = some numeral ∧
        Reads x numeral := by
  have all : ∀ c ∈ first :: more, isDigit c = true := by
    rw [← shape]
    exact fun _ => Numeral.isDigit_of_mem_digits
  have value := Numeral.ofDigits_digits x.shortest.coefficient
  rw [shape, List.map_cons] at value
  have given : (if more.isEmpty then none else some more).getD [] = more := by
    cases more <;> rfl
  have read := Numeral.read?_chars ⟨.ofNegative x.negative, [first],
    if more.isEmpty then none else some more, some (.ofInt (more.length + x.shortest.scale)),
    by rwa [given], List.cons_ne_nil _ _⟩
  have point : (if more.isEmpty then none else some more).elim [] ('.' :: ·) =
      if more.isEmpty then [] else '.' :: more := by
    cases more <;> rfl
  rw [Spelling.chars, Spelling.pointChars, Spelling.exponentChars, Spelling.numeral] at read
  dsimp only [Option.elim_some] at read
  rw [Sign.chars_ofNegative, Sign.isMinus_ofNegative, Exponent.chars_ofInt, given, point,
    Option.map_some, Exponent.value_ofInt, List.singleton_append, ← exponentText_eq] at read
  refine ⟨_, read, .scientific (digitValue first) (more.map digitValue)
    (Numeral.digitValue_lt (all _ List.mem_cons_self)) value ?_⟩
  rw [List.length_map]
  rfl

theorem read?_compact (x : Binary64) :
    ∃ numeral, Numeral.read? (compact.text x) = some numeral ∧ Reads x numeral := by
  unfold text
  dsimp only
  by_cases zero : x.isZero = true
  · rw [if_pos zero]
    have one : ∀ c ∈ ['0'], isDigit c = true := by
      intro c inside
      rw [List.mem_singleton.mp inside]
      rfl
    have low : (1 : Int) ≤ 16 := by omega
    exact read?_positional x one (List.cons_ne_nil _ _) low
  · rw [if_neg zero]
    have all : ∀ c ∈ Decimal.digits x.shortest.coefficient, isDigit c = true :=
      fun _ => Numeral.isDigit_of_mem_digits
    cases shape : Decimal.digits x.shortest.coefficient with
    | nil => exact absurd shape Nat.toDigits_ne_nil
    | cons first more =>
        rw [shape] at all
        have length : ((first :: more).length : Int) - 1 = more.length := by
          rw [List.length_cons]
          omega
        rw [length]
        change ∃ numeral, Numeral.read? (if (decide (-5 ≤ (more.length : Int) + x.shortest.scale) &&
          decide ((more.length : Int) + x.shortest.scale ≤ 15)) = true then _ else _) = _ ∧ _
        split
        · rename_i inside
          rw [Bool.and_eq_true, decide_eq_true_eq, decide_eq_true_eq] at inside
          exact read?_positional x all (List.cons_ne_nil first more) (by omega)
        · exact read?_scientific x shape

end DoubleStyle

end PresenceGateway
