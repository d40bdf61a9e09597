import Mathlib.Algebra.Group.Nat.Defs
import Mathlib.Data.List.TakeWhile
import PresenceGateway.Decimal.Numeral
import PresenceGateway.Decimal.Shortest
/-!
The digits of a natural number as a numeral: they are read whole, and their value is the number. How
many digits there are bounds the value, and leading zeros do not count.
-/
namespace PresenceGateway.Numeral

theorem isDigit_of_mem_digits {n : Nat} {c : Char} (inside : c ∈ Decimal.digits n) :
    isDigit c = true := by
  have digit := Nat.isDigit_of_mem_toDigits (by decide) (by decide) inside
  rw [Char.isDigit_iff_toNat] at digit
  unfold isDigit
  rw [Bool.and_eq_true, decide_eq_true_eq, decide_eq_true_eq]
  exact digit

theorem digits_ne_nil (n : Nat) : Decimal.digits n ≠ [] := Nat.toDigits_ne_nil

theorem digitValue_lt {c : Char} (digit : isDigit c = true) : digitValue c < 10 := by
  unfold isDigit at digit
  rw [Bool.and_eq_true, decide_eq_true_eq, decide_eq_true_eq] at digit
  unfold digitValue
  omega

theorem ofDigits_map_digitValue (digits : List Char) :
    ofDigits (digits.map digitValue) = Nat.ofDigitChars 10 digits 0 := by
  rw [ofDigits, List.foldl_map, Nat.ofDigitChars_eq_foldl]
  congr 1
  funext value digit
  rw [Nat.mul_comm value 10]
  rfl

/-! ### Bounds -/

theorem le_foldl (value : Nat) (digits : List Nat) :
    value * 10 ^ digits.length ≤ digits.foldl (fun value digit => value * 10 + digit) value := by
  induction digits generalizing value with
  | nil => simp
  | cons digit rest ih =>
      rw [List.foldl_cons, List.length_cons, Nat.pow_succ]
      calc
        value * (10 ^ rest.length * 10) = value * 10 * 10 ^ rest.length := by
          rw [Nat.mul_comm _ 10, Nat.mul_assoc]
        _ ≤ (value * 10 + digit) * 10 ^ rest.length := Nat.mul_le_mul_right _ (Nat.le_add_right ..)
        _ ≤ _ := ih _

theorem foldl_lt {digits : List Nat} (small : ∀ digit ∈ digits, digit < 10) (value : Nat) :
    digits.foldl (fun value digit => value * 10 + digit) value <
      (value + 1) * 10 ^ digits.length := by
  induction digits generalizing value with
  | nil => simp
  | cons digit rest ih =>
      obtain ⟨first, later⟩ := List.forall_mem_cons.mp small
      rw [List.foldl_cons, List.length_cons, Nat.pow_succ']
      calc
        _ < (value * 10 + digit + 1) * 10 ^ rest.length := ih later _
        _ ≤ (value + 1) * 10 * 10 ^ rest.length := Nat.mul_le_mul_right _ (by omega)
        _ = _ := Nat.mul_assoc ..

theorem ofDigits_lt {digits : List Nat} (small : ∀ digit ∈ digits, digit < 10) :
    ofDigits digits < 10 ^ digits.length := by
  have less := foldl_lt small 0
  rwa [Nat.zero_add, Nat.one_mul] at less

theorem le_ofDigits {digit : Nat} (positive : 0 < digit) (rest : List Nat) :
    10 ^ rest.length ≤ ofDigits (digit :: rest) := by
  have reached := le_foldl (0 * 10 + digit) rest
  rw [ofDigits, List.foldl_cons]
  refine (Nat.le_mul_of_pos_left _ ?_).trans reached
  omega

theorem ofDigits_dropWhile_zero (digits : List Nat) :
    ofDigits (digits.dropWhile (· = 0)) = ofDigits digits := by
  induction digits with
  | nil => rfl
  | cons digit rest ih =>
      by_cases zero : digit = 0
      · subst zero
        exact ih
      · rw [List.dropWhile_cons_of_neg (by simpa using zero)]

theorem ofDigits_significantDigits (numeral : Numeral) :
    ofDigits numeral.significantDigits = numeral.coefficient :=
  ofDigits_dropWhile_zero _

/-! ### Taking digits -/

/-- Digits are taken up to the first character that is none. -/
theorem takeDigits_append {digits rest : List Char} (all : ∀ c ∈ digits, isDigit c = true)
    (stops : ∀ c ∈ rest.head?, isDigit c = false) :
    takeDigits (digits ++ rest) = (digits.map digitValue, rest) := by
  have taken : rest.takeWhile isDigit = [] ∧ rest.dropWhile isDigit = rest := by
    cases rest with
    | nil => exact ⟨rfl, rfl⟩
    | cons first later =>
        have other : isDigit first = false := stops first rfl
        simp [other]
  rw [takeDigits, List.takeWhile_append_of_pos all, List.dropWhile_append_of_pos all, taken.1,
    taken.2, List.append_nil]

theorem takeDigits_eq {digits : List Char} (all : ∀ c ∈ digits, isDigit c = true) :
    takeDigits digits = (digits.map digitValue, []) := by
  have none : ∀ c ∈ ([] : List Char).head?, isDigit c = false := by simp
  have taken := takeDigits_append all none
  rwa [List.append_nil] at taken

theorem exists_digits (cs : List Char) :
    ∃ digits, (∀ c ∈ digits, isDigit c = true) ∧ cs = digits ++ (takeDigits cs).2 ∧
      (takeDigits cs).1 = digits.map digitValue :=
  ⟨cs.takeWhile isDigit, fun _ => List.mem_takeWhile_imp, (List.takeWhile_append_dropWhile ..).symm,
    rfl⟩

theorem ofDigits_digits (n : Nat) : ofDigits ((Decimal.digits n).map digitValue) = n := by
  rw [ofDigits_map_digitValue]
  exact Nat.ofDigitChars_ten_toDigits

/-! ### Natural numbers -/

/-- The text is the number in decimal digits, which a plus sign may lead. -/
def Spells (n : Nat) (text : String) : Prop :=
  ∃ digits : List Char, digits ≠ [] ∧ (∀ c ∈ digits, isDigit c = true) ∧
    (text.toList = digits ∨ text.toList = '+' :: digits) ∧ ofDigits (digits.map digitValue) = n

theorem takeNatural_eq_some_iff {cs : List Char} {n : Nat} :
    takeNatural cs = some (n, []) ↔
      cs ≠ [] ∧ (∀ c ∈ cs, isDigit c = true) ∧ ofDigits (cs.map digitValue) = n := by
  constructor
  · intro read
    obtain ⟨digits, all, shape, taken⟩ := exists_digits cs
    unfold takeNatural at read
    split at read
    · cases read
    · rename_i nonempty same
      obtain ⟨value, rest⟩ := Prod.mk.inj (Option.some.inj read)
      rw [same] at shape taken
      rw [rest, List.append_nil] at shape
      subst shape
      refine ⟨?_, all, taken ▸ value⟩
      rintro rfl
      exact nonempty taken
  · rintro ⟨nonempty, all, rfl⟩
    obtain ⟨c, rest, rfl⟩ := List.exists_cons_of_ne_nil nonempty
    rw [takeNatural, takeDigits_eq all]
    rfl

theorem takeNatural_below_iff {bound n : Nat} (cs : List Char) :
    (match takeNatural cs with
      | some (value, []) => if value < bound then some value else none
      | _ => none) = some n ↔ takeNatural cs = some (n, []) ∧ n < bound := by
  split
  · rename_i value same
    rw [same]
    by_cases small : value < bound
    · rw [if_pos small]
      constructor
      · rintro ⟨⟩
        exact ⟨rfl, small⟩
      · rintro ⟨⟨⟩, _⟩
        rfl
    · rw [if_neg small]
      constructor
      · rintro ⟨⟩
      · rintro ⟨⟨⟩, impossible⟩
        exact absurd impossible small
  · rename_i other
    constructor
    · rintro ⟨⟩
    · rintro ⟨same, _⟩
      exact absurd same (other n)

/-- A natural number is read from the texts that spell it, if it is below the bound. -/
theorem natural?_eq_some_iff {bound n : Nat} {text : String} :
    natural? bound text = some n ↔ Spells n text ∧ n < bound := by
  have unsigned {cs : List Char}
      (rest : ∀ digits : List Char, (∀ c ∈ digits, isDigit c = true) →
        (text.toList = digits ∨ text.toList = '+' :: digits ↔ cs = digits)) :
      takeNatural cs = some (n, []) ∧ n < bound ↔ Spells n text ∧ n < bound := by
    rw [takeNatural_eq_some_iff]
    refine and_congr_left fun _ => ?_
    constructor
    · rintro ⟨nonempty, all, value⟩
      exact ⟨cs, nonempty, all, (rest cs all).mpr rfl, value⟩
    · rintro ⟨digits, nonempty, all, shape, value⟩
      obtain rfl := (rest digits all).mp shape
      exact ⟨nonempty, all, value⟩
  refine (takeNatural_below_iff _).trans (unsigned ?_)
  intro digits all
  split
  · rename_i rest signed
    rw [signed, List.cons_inj_right, or_iff_right]
    rintro rfl
    exact absurd (all '+' List.mem_cons_self) (by decide)
  · rename_i plain
    exact or_iff_left (plain digits)

end PresenceGateway.Numeral
