import Mathlib.Algebra.GroupWithZero.Nat
import PresenceGateway.Time.Date
/-!
The calendar: every day has a year, a month and a day of the month, and these lead back to it.
-/
namespace PresenceGateway.Date

theorem daysBefore_succ (year : Int) :
    daysBefore (year + 1) = daysBefore year + if isLeap year then 366 else 365 := by
  unfold daysBefore isLeap
  by_cases fourth : year % 4 = 0 <;> by_cases century : year % 100 = 0 <;>
    by_cases era : year % 400 = 0 <;> simp [fourth, century, era] <;> omega

/-- The year of a day begins no later than that day and ends after it. -/
theorem daysBefore_yearOf (days : Int) :
    daysBefore (yearOf days) ≤ days ∧ days < daysBefore (yearOf days + 1) := by
  unfold yearOf
  dsimp only
  split
  · rename_i begun
    unfold daysBefore at begun ⊢
    omega
  · rename_i notBegun
    split
    · rename_i early
      rw [Int.sub_add_cancel]
      refine ⟨?_, early⟩
      unfold daysBefore at early ⊢
      omega
    · rename_i started
      unfold daysBefore at notBegun started ⊢
      omega

/-- A day within the months that are left is placed in one of them. -/
theorem placeIn_spec {days : Nat} {lengths : List Nat} (within : days < lengths.sum) (month : Nat) :
    ∃ index length, lengths[index]? = some length ∧ (placeIn month days lengths).1 = month + index ∧
      1 ≤ (placeIn month days lengths).2 ∧ (placeIn month days lengths).2 ≤ length ∧
      (lengths.take index).sum + (placeIn month days lengths).2 = days + 1 := by
  induction lengths generalizing days month with
  | nil => exact absurd within (Nat.not_lt_zero _)
  | cons length rest ih =>
      rw [List.sum_cons] at within
      rw [placeIn]
      by_cases here : days < length
      · rw [if_pos here]
        refine ⟨0, length, rfl, rfl, by simp, here, ?_⟩
        simp
      · rw [if_neg here]
        have later : days - length < rest.sum := by omega
        obtain ⟨index, found, there, inMonth, positive, fits, total⟩ := ih later (month + 1)
        refine ⟨index + 1, found, there, by omega, positive, fits, ?_⟩
        rw [List.take_succ_cons, List.sum_cons]
        omega

theorem sum_monthLengths (leap : Bool) :
    (monthLengths leap).sum = if leap then 366 else 365 := by
  cases leap <;> rfl

theorem monthLengths_le (leap : Bool) : ∀ length ∈ monthLengths leap, length ≤ 31 := by
  cases leap <;> decide

/-- Where the day of a date lies: in a month of its year, which it does not exceed. -/
theorem ofDays_spec (days : Int) :
    ∃ index length, (monthLengths (isLeap (ofDays days).year))[index]? = some length ∧
      (ofDays days).month = index + 1 ∧ 1 ≤ (ofDays days).day ∧ (ofDays days).day ≤ length ∧
      daysBefore (ofDays days).year +
        ((monthLengths (isLeap (ofDays days).year)).take index).sum + (ofDays days).day =
          days + 1 := by
  obtain ⟨begun, ended⟩ := daysBefore_yearOf days
  rw [daysBefore_succ] at ended
  have within : (days - daysBefore (yearOf days)).toNat <
      (monthLengths (isLeap (yearOf days))).sum := by
    rw [sum_monthLengths]
    split at ended
    · rename_i leap
      rw [if_pos leap]
      omega
    · rename_i common
      rw [if_neg common]
      omega
  obtain ⟨index, length, there, inMonth, positive, fits, total⟩ := placeIn_spec within 1
  refine ⟨index, length, there, ?_, positive, fits, ?_⟩
  · exact inMonth.trans (Nat.add_comm 1 index)
  · change daysBefore (yearOf days) + ((monthLengths (isLeap (yearOf days))).take index).sum +
      ((placeIn 1 (days - daysBefore (yearOf days)).toNat
        (monthLengths (isLeap (yearOf days)))).2 : Int) = days + 1
    omega

theorem isValid_ofDays (days : Int) : (ofDays days).isValid = true := by
  obtain ⟨index, length, there, inMonth, positive, fits, _⟩ := ofDays_spec days
  unfold isValid
  rw [inMonth, Nat.add_sub_cancel, there]
  simp [positive, fits]

theorem toDays_ofDays (days : Int) : (ofDays days).toDays = days := by
  obtain ⟨index, length, _, inMonth, _, _, total⟩ := ofDays_spec days
  unfold toDays daysBeforeMonth
  have folded (lengths : List Nat) : lengths.foldl Nat.add 0 = lengths.sum :=
    List.sum_eq_foldl_nat.symm
  rw [inMonth, Nat.add_sub_cancel, folded]
  omega

theorem month_ofDays_le (days : Int) : (ofDays days).month ≤ 12 := by
  obtain ⟨index, length, there, inMonth, _⟩ := ofDays_spec days
  have short : index < (monthLengths (isLeap (ofDays days).year)).length :=
    (List.getElem?_eq_some_iff.mp there).1
  have twelve (leap : Bool) : (monthLengths leap).length = 12 := rfl
  rw [twelve] at short
  omega

theorem day_ofDays_le (days : Int) : (ofDays days).day ≤ 31 := by
  obtain ⟨index, length, there, _, _, fits, _⟩ := ofDays_spec days
  have bounded := monthLengths_le _ length (List.mem_of_getElem? there)
  omega

end PresenceGateway.Date
