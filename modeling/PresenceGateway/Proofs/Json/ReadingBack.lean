import PresenceGateway.Proofs.Decimal.Spelling
import PresenceGateway.Proofs.Json.Writing
/-!
Which values are read back as they were from their own writing. Texts and integers always are. An
array is when each of its items is, and an object when each of its values is, one level further
down; so what is lost is a double that its numeral does not mean, or a value that is nested too
deep.
-/
namespace PresenceGateway.Json

/-! ### Integers -/

theorem Number.numeral_integer (value : Int)
    (fits : -0x8000000000000000 ≤ value ∧ value < 0x10000000000000000) :
    (Number.integer value fits).numeral =
      ⟨decide (value < 0), (Decimal.digits value.natAbs).map Numeral.digitValue, [], none⟩ := by
  have all : ∀ c ∈ Decimal.digits value.natAbs ++ (none : Option (List Char)).getD [],
      Numeral.isDigit c = true := by
    rw [Option.getD_none, List.append_nil]
    exact fun _ => Numeral.isDigit_of_mem_digits
  have read := Numeral.read?_chars ⟨.ofNegative (decide (value < 0)), Decimal.digits value.natAbs,
    none, none, all, List.append_ne_nil_of_left_ne_nil (Numeral.digits_ne_nil _) _⟩
  rw [Numeral.Spelling.numeral, Numeral.Sign.isMinus_ofNegative] at read
  have chars : (Number.integer value fits).chars =
      (Numeral.Sign.ofNegative (decide (value < 0))).chars ++
        (Decimal.digits value.natAbs ++ ([] ++ [])) := by
    rw [Number.chars, integerChars, Numeral.Sign.chars_ofNegative, List.append_nil, List.append_nil]
    by_cases negative : value < 0
    · rw [if_pos negative, if_pos (decide_eq_true negative)]
      rfl
    · rw [if_neg negative, if_neg (by simpa using negative)]
      rfl
  rw [Number.numeral, chars]
  exact congrArg (Option.getD · _) read

/-- An integer is read back from its numeral, and stays an integer. -/
theorem Number.ofNumeral?_integer (value : Int)
    (fits : -0x8000000000000000 ≤ value ∧ value < 0x10000000000000000) :
    Number.ofNumeral? (Number.integer value fits).numeral = some (.integer value fits) := by
  rw [Number.numeral_integer]
  have coefficient : Numeral.coefficient ⟨decide (value < 0),
      (Decimal.digits value.natAbs).map Numeral.digitValue, [], none⟩ = value.natAbs := by
    rw [Numeral.coefficient, List.append_nil, Numeral.ofDigits_digits]
  have size : (if decide (value < 0) = true then -(value.natAbs : Int) else value.natAbs) =
      value := by
    by_cases negative : value < 0
    · rw [if_pos (decide_eq_true negative)]
      omega
    · rw [if_neg (by simpa using negative)]
      omega
  have nonzero : (decide (value < 0) && value == 0) = false := by
    rw [Bool.and_eq_false_iff, decide_eq_false_iff_not, beq_eq_false_iff_ne]
    omega
  unfold Number.ofNumeral?
  simp only [coefficient, size, nonzero]
  rw [dif_pos fits]
  rfl

/-! ### Values -/

namespace Value

/-- A value is written and read back as it was, if so many arrays and objects may be open. -/
def ReadsBack (levels : Nat) (value : Value) : Prop :=
  Tree.toValue? levels (Tree.ofValue value) = some value

theorem readsBack_null (levels : Nat) : ReadsBack levels .null := by
  rw [ReadsBack, Tree.ofValue, Tree.toValue?]

theorem readsBack_bool (levels : Nat) (value : Bool) : ReadsBack levels (.bool value) := by
  rw [ReadsBack, Tree.ofValue, Tree.toValue?]

theorem readsBack_string (levels : Nat) (text : String) : ReadsBack levels (.string text) := by
  rw [ReadsBack, Tree.ofValue, Tree.toValue?, StringUnits.text?_ofText, Option.map_some]

theorem readsBack_number_iff (levels : Nat) (number : Number) :
    ReadsBack levels (.number number) ↔ Number.ofNumeral? number.numeral = some number := by
  rw [ReadsBack, Tree.ofValue, Tree.toValue?, Option.map_eq_some_iff]
  constructor
  · rintro ⟨other, read, same⟩
    cases same
    exact read
  · intro read
    exact ⟨number, read, rfl⟩

theorem readsBack_integer (levels : Nat) (value : Int)
    (fits : -0x8000000000000000 ≤ value ∧ value < 0x10000000000000000) :
    ReadsBack levels (.number (.integer value fits)) :=
  (readsBack_number_iff levels _).mpr (Number.ofNumeral?_integer value fits)

theorem readsBack_ofNat (levels n : Nat) : ReadsBack levels (.ofNat n) := by
  unfold Value.ofNat Number.ofNat
  split
  · exact readsBack_integer levels _ _
  · exact readsBack_integer levels _ _

theorem readsBack_array_iff (levels : Nat) (items : List Value) :
    ReadsBack (levels + 1) (.array items) ↔ ∀ item ∈ items, item.ReadsBack levels := by
  have all : Tree.toValues? levels (Tree.ofValues items) = some items ↔
      ∀ item ∈ items, item.ReadsBack levels := by
    induction items with
    | nil => exact iff_of_true rfl (by simp)
    | cons head tail ih =>
        rw [List.forall_mem_cons, ← ih, Tree.ofValues, Tree.toValues?, ReadsBack]
        cases Tree.toValue? levels (Tree.ofValue head) with
        | none => simp
        | some value => cases Tree.toValues? levels (Tree.ofValues tail) <;> simp
  rw [← all, ReadsBack, Tree.ofValue, Tree.toValue?, Option.map_eq_some_iff]
  constructor
  · rintro ⟨values, read, same⟩
    cases same
    exact read
  · intro read
    exact ⟨items, read, rfl⟩

theorem readsBack_iff (levels : Nat) (value : Value) :
    value.ReadsBack levels ↔ value.outline.read? levels = some value := by
  rw [ReadsBack, Outline.read?, Tree.ofOutline_written]

theorem readsBack_object_iff {levels : Nat} {members : Members} (ascending : members.Ascending) :
    ReadsBack (levels + 1) (.object members) ↔
      ∀ key value, members.get? key = some value → value.ReadsBack levels := by
  have distinct : (Outline.keys (outlineMembers members)).Nodup := by
    rw [keys_outlineMembers]
    exact ascending.nodup
  rw [readsBack_iff, Value.outline, Outline.read?_object_eq_some_iff distinct]
  constructor
  · rintro ⟨_, each⟩ key value found
    have here := each key
    rw [member?_outlineMembers, found, Option.map_some, Option.map_some, Option.map_some] at here
    exact (readsBack_iff _ _).mpr (Option.some.inj here)
  · intro each
    refine ⟨ascending, fun key => ?_⟩
    rw [member?_outlineMembers]
    cases found : members.get? key with
    | none => rfl
    | some value => exact congrArg some ((readsBack_iff _ _).mp (each key value found))

/-- A value that lasts: it nests at most so deep, and each of its doubles is what its own numeral
means. -/
inductive Lasting : Nat → Value → Prop where
  | null (levels : Nat) : Lasting levels .null
  | bool (levels : Nat) (value : Bool) : Lasting levels (.bool value)
  | integer (levels : Nat) (value : Int)
      (fits : -0x8000000000000000 ≤ value ∧ value < 0x10000000000000000) :
      Lasting levels (.number (.integer value fits))
  | double (levels : Nat) {value : Binary64} :
      Number.ofNumeral? (Number.double value).numeral = some (.double value) →
      Lasting levels (.number (.double value))
  | string (levels : Nat) (text : String) : Lasting levels (.string text)
  | array {levels : Nat} {items : List Value} :
      (∀ item ∈ items, Lasting levels item) → Lasting (levels + 1) (.array items)
  | object {levels : Nat} {members : Members} :
      (∀ member ∈ members, Lasting levels member.2) → Lasting (levels + 1) (.object members)

/-- The values that are read back from their writing are those that last. -/
theorem readsBack_iff_lasting {value : Value} (ordered : value.Ordered) (levels : Nat) :
    value.ReadsBack levels ↔ Lasting levels value := by
  induction ordered generalizing levels with
  | null => exact iff_of_true (readsBack_null levels) (.null levels)
  | bool value => exact iff_of_true (readsBack_bool levels value) (.bool levels value)
  | string text => exact iff_of_true (readsBack_string levels text) (.string levels text)
  | number number =>
      cases number with
      | integer value fits =>
          exact iff_of_true (readsBack_integer levels value fits) (.integer levels value fits)
      | double value =>
          rw [readsBack_number_iff]
          constructor
          · exact .double levels
          · intro lasting
            cases lasting with
            | double _ meant => exact meant
  | @array items _ ih =>
      cases levels with
      | zero =>
          refine iff_of_false ?_ ?_
          · intro impossible
            cases impossible
          · intro impossible
            cases impossible
      | succ levels =>
          rw [readsBack_array_iff]
          constructor
          · intro each
            exact .array fun item inside => (ih item inside levels).mp (each item inside)
          · intro lasting item inside
            cases lasting with
            | array each => exact (ih item inside levels).mpr (each item inside)
  | @object members ascending _ ih =>
      cases levels with
      | zero =>
          refine iff_of_false ?_ ?_
          · intro impossible
            cases impossible
          · intro impossible
            cases impossible
      | succ levels =>
          rw [readsBack_object_iff ascending]
          constructor
          · intro each
            refine .object fun member inside => (ih member inside levels).mp ?_
            exact each _ _ (Members.Ascending.get?_of_mem ascending inside)
          · intro lasting key value found
            have inside := Members.mem_of_get? found
            cases lasting with
            | object each => exact (ih _ inside levels).mpr (each _ inside)

end Value

end PresenceGateway.Json
