import PresenceGateway.Proofs.Decimal.Nearest
import PresenceGateway.Proofs.Json.Truth
import PresenceGateway.Proofs.Presence.Attributes
/-!
The two attribute policies side by side. Updates under them agree in everything but the attributes, and
neither has an attribute that is null. The policy that omits what is empty drops false, a zero of any
kind and what has nothing in it, and keeps all else that the other policy keeps.
-/
namespace PresenceGateway

/-! ### Empty values -/

namespace Json

def Number.value : Number → ℚ
  | .integer value _ => value
  | .double value => value.value

inductive Value.Empty : Value → Prop where
  | no : Empty (.bool false)
  | zero {number : Number} (vanishes : number.value = 0) : Empty (.number number)
  | text : Empty (.string "")
  | list : Empty (.array [])
  | object : Empty (.object [])

theorem Number.value_eq_zero_iff (number : Number) :
    number.value = 0 ↔ number.toBinary64.isZero = true := by
  cases number with
  | integer value fits =>
      rw [integer_isZero_iff]
      exact Int.cast_eq_zero
  | double value =>
      have grain : ((Power.two 1074 : ℕ) : ℚ) ≠ 0 := ne_of_gt Binary64.grain_pos
      have unit : Power.two value.unit ≠ 0 := Nat.ne_of_gt (Binary64.two_pos value.unit)
      have magnitude : value.magnitude = 0 ↔ value.significand = 0 :=
        Nat.mul_eq_zero.trans (or_iff_left unit)
      have size : value.size = 0 ↔ value.significand = 0 := by
        rw [Binary64.size, div_eq_zero_iff, or_iff_left grain, Nat.cast_eq_zero, magnitude]
      change value.value = 0 ↔ (value.significand == 0) = true
      rw [← abs_eq_zero, Binary64.abs_value, size, beq_iff_eq]

theorem Value.falsy_iff (value : Value) : value.Falsy ↔ value = .null ∨ value.Empty := by
  constructor
  · intro falsy
    cases falsy with
    | null => exact .inl rfl
    | no => exact .inr .no
    | integer fits => exact .inr (.zero Int.cast_zero)
    | double negative => exact .inr (.zero ((Number.value_eq_zero_iff _).mpr rfl))
    | text => exact .inr .text
    | list => exact .inr .list
    | object => exact .inr .object
  · rintro (rfl | empty)
    · exact .null
    · cases empty with
      | no => exact .no
      | @zero number vanishes =>
          rw [← Value.isTruthy_eq_false_iff]
          change (!number.toBinary64.isZero) = false
          rw [(Number.value_eq_zero_iff number).mp vanishes]
          rfl
      | text => exact .text
      | list => exact .list
      | object => exact .object

end Json

open Json (Value Members)

/-! ### Both policies -/

theorem AttributePolicy.preserveEmpty_keeps_iff (value : Value) :
    preserveEmpty.keeps value = true ↔ value ≠ .null := by
  cases value <;> simp [keeps]

/-- What is not null is dropped exactly when it is empty. -/
theorem AttributePolicy.omitEmpty_keeps_eq_false_iff {value : Value} (present : value ≠ .null) :
    omitEmpty.keeps value = false ↔ value.Empty := by
  change value.isTruthy = false ↔ _
  rw [Value.isTruthy_eq_false_iff, Value.falsy_iff, or_iff_right present]

theorem AttributePolicy.preserveEmpty_keeps_of_truthy {value : Value} (truthy : value.isTruthy = true) :
    preserveEmpty.keeps value = true := by
  rw [preserveEmpty_keeps_iff]
  rintro rfl
  cases truthy

namespace Observation

variable (observation : Observation) (apMac : Option Value)

/-- What is kept by the policy that omits what is empty is what counts as present of all that the
other policy keeps. -/
theorem attributes_omitEmpty :
    observation.attributes .omitEmpty apMac =
      (observation.attributes .preserveEmpty apMac).filter fun member => member.2.isTruthy := by
  have ascending : Members.Ascending (observation.attributes .preserveEmpty apMac) :=
    Members.ascending_ofList _
  apply Members.Ascending.ext (Members.ascending_ofList _) (List.Pairwise.filter _ ascending)
  intro key
  change (observation.attributes .omitEmpty apMac).get? key = _
  rw [ascending.get?_filter, get?_attributes, get?_attributes, Option.filter_filter]
  congr 1
  funext value
  change value.isTruthy = (AttributePolicy.preserveEmpty.keeps value && value.isTruthy)
  cases truthy : value.isTruthy with
  | false => exact (Bool.and_false _).symm
  | true => rw [AttributePolicy.preserveEmpty_keeps_of_truthy truthy, Bool.and_true]

end Observation

/-- The two policies differ by emptiness alone. An observation and an access point give the same update
under both but for the attributes, and those of the policy that omits what is empty are the others that
count as present. No attribute is null. What was reported and is not null is an attribute under the policy
that preserves it, and is dropped by the other exactly when it is false, a number that is zero, or a text,
list or object with nothing in it. -/
theorem policies_differ_by_emptiness (observation : Observation) (apMac : Option Value) :
    observation.toUpdate .omitEmpty apMac =
      { observation.toUpdate .preserveEmpty apMac with
        attributes := (observation.toUpdate .preserveEmpty apMac).attributes.filter
          fun member => member.2.isTruthy } ∧
      (∀ policy, ∀ member ∈ (observation.toUpdate policy apMac).attributes, member.2 ≠ .null) ∧
      (∀ key value, (key, some value) ∈ observation.reported apMac → value ≠ .null →
        (observation.toUpdate .preserveEmpty apMac).attributes.get? key = some value ∧
          ((observation.toUpdate .omitEmpty apMac).attributes.get? key = none ↔ value.Empty)) ∧
      ∀ value : Value, value ≠ .null →
        (AttributePolicy.omitEmpty.keeps value = false ↔ value.Empty) := by
  refine ⟨?_, fun policy member inside => Observation.ne_null_of_mem_attributes inside, ?_,
    fun value => AttributePolicy.omitEmpty_keeps_eq_false_iff⟩
  · unfold Observation.toUpdate
    rw [observation.attributes_omitEmpty]
  · intro key value reported present
    have kept (policy : AttributePolicy) :
        (observation.toUpdate policy apMac).attributes.get? key =
          if policy.keeps value then some value else none :=
      Observation.get?_attributes_of_reported reported
    rw [kept, kept, if_pos ((AttributePolicy.preserveEmpty_keeps_iff value).mpr present),
      ← AttributePolicy.omitEmpty_keeps_eq_false_iff present]
    refine ⟨rfl, ?_⟩
    cases AttributePolicy.omitEmpty.keeps value with
    | false => exact ⟨fun _ => rfl, fun _ => rfl⟩
    | true => exact iff_of_false (Option.some_ne_none value) Bool.noConfusion

def sparseObservation : Observation :=
  { clientMac := "a"
    location := { lat := .text "NaN", lng := .text "2.5", unc := none }
    name := none
    os := some (.number (.double (.zero true)))
    manufacturer := some (.array [])
    ipv4 := some .null
    ipv6 := none
    seenTime := some (.string "now")
    ssid := none }

/-- The negative zero and the list are attributes under one policy only, the text under both, and null
under neither. -/
theorem policies_differ_by_emptiness_of_sparse :
    (sparseObservation.toUpdate .preserveEmpty none).attributes.get? "os" =
        some (.number (.double (.zero true))) ∧
      (sparseObservation.toUpdate .omitEmpty none).attributes.get? "os" = none ∧
      (sparseObservation.toUpdate .omitEmpty none).attributes.get? "manufacturer" = none ∧
      (sparseObservation.toUpdate .omitEmpty none).attributes.get? "seenTime" ≠ none ∧
      ("ipv4", .null) ∉ (sparseObservation.toUpdate .preserveEmpty none).attributes := by
  obtain ⟨_, solid, each, empties⟩ := policies_differ_by_emptiness sparseObservation none
  obtain ⟨preserved, dropped⟩ := each "os" (.number (.double (.zero true)))
    (List.mem_of_getElem? (i := 0) rfl) nofun
  have list := (each "manufacturer" (.array []) (List.mem_of_getElem? (i := 1) rfl) nofun).2
  have text := (each "seenTime" (.string "now") (List.mem_of_getElem? (i := 4) rfl) nofun).2
  have zero : Value.Empty (.number (.double (.zero true))) :=
    .zero ((Json.Number.value_eq_zero_iff _).mpr rfl)
  have nonempty : ¬Value.Empty (.string "now") := mt (empties (.string "now") nofun).mpr (by decide)
  exact ⟨preserved, dropped.mpr zero, list.mpr .list, mt text.mp nonempty,
    fun null => solid .preserveEmpty _ null rfl⟩

end PresenceGateway
