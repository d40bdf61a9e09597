import PresenceGateway.Json.Value
import PresenceGateway.Proofs.Decimal.Rounding
/-!
Which JSON values count as present.

`Falsy` lists the values that do not: null, false, a zero of any kind, and whatever is empty.
-/
namespace PresenceGateway.Json

inductive Value.Falsy : Value → Prop where
  | null : Falsy .null
  | no : Falsy (.bool false)
  | integer (fits : -0x8000000000000000 ≤ (0 : Int) ∧ (0 : Int) < 0x10000000000000000) :
      Falsy (.number (.integer 0 fits))
  | double (negative : Bool) : Falsy (.number (.double (.zero negative)))
  | text : Falsy (.string "")
  | list : Falsy (.array [])
  | object : Falsy (.object [])

/-- Among the 64-bit integers only zero is a zero. -/
theorem Number.integer_isZero_iff (value : Int)
    (fits : -0x8000000000000000 ≤ value ∧ value < 0x10000000000000000) :
    (Number.integer value fits).toBinary64.isZero = true ↔ value = 0 := by
  rw [Number.toBinary64]
  by_cases same : value = 0
  · subst same
    rw [Int.natAbs_zero, Binary64.ofNat?_zero]
    exact ⟨fun _ => rfl, fun _ => rfl⟩
  · have size : value.natAbs < 2 ^ 64 := by omega
    obtain ⟨x, found, positive⟩ := Binary64.ofNat?_of_pos (Int.natAbs_pos.mpr same) size
    have negated : x.neg.isZero = false := positive
    rw [found]
    by_cases negative : value < 0
    · simp [negative, negated, same]
    · simp [negative, positive, same]

theorem Value.isTruthy_eq_false_iff (value : Value) : value.isTruthy = false ↔ value.Falsy := by
  cases value with
  | null => exact ⟨fun _ => .null, fun _ => rfl⟩
  | bool flag =>
      cases flag with
      | false => exact ⟨fun _ => .no, fun _ => rfl⟩
      | true =>
          refine iff_of_false (by simp [Value.isTruthy]) ?_
          intro impossible
          cases impossible
  | number number =>
      have zero : (Value.number number).isTruthy = false ↔ number.toBinary64.isZero = true := by
        simp [Value.isTruthy]
      rw [zero]
      cases number with
      | integer value fits =>
          rw [Number.integer_isZero_iff]
          constructor
          · rintro rfl
            exact .integer fits
          · intro falsy
            cases falsy
            rfl
      | double value =>
          change value.isZero = true ↔ _
          rw [Binary64.isZero_iff]
          constructor
          · rintro ⟨negative, rfl⟩
            exact .double negative
          · intro falsy
            cases falsy with
            | double negative => exact ⟨negative, rfl⟩
  | string text =>
      have empty : (Value.string text).isTruthy = false ↔ text = "" := by
        simp [Value.isTruthy]
      rw [empty]
      constructor
      · rintro rfl
        exact .text
      · intro falsy
        cases falsy
        rfl
  | array items =>
      cases items with
      | nil => exact ⟨fun _ => .list, fun _ => rfl⟩
      | cons item rest =>
          exact ⟨fun truthy => by simp [Value.isTruthy] at truthy, fun falsy => by cases falsy⟩
  | object members =>
      cases members with
      | nil => exact ⟨fun _ => .object, fun _ => rfl⟩
      | cons member rest =>
          exact ⟨fun truthy => by simp [Value.isTruthy] at truthy, fun falsy => by cases falsy⟩

end PresenceGateway.Json
