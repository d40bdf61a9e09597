import PresenceGateway.Proofs.Time.Writing
/-!
The order of the texts of instants. In years of four digits it is the order of the instants, to the
millisecond: larger units stand before smaller ones, and each is written with as many digits in one
text as in the other.
-/
namespace PresenceGateway

/-! ### Dates -/

namespace Date

def Before (first second : Date) : Prop :=
  first.year < second.year ∨ first.year = second.year ∧
    (first.month < second.month ∨ first.month = second.month ∧ first.day < second.day)

theorem daysBefore_mono {first second : Int} (le : first ≤ second) :
    daysBefore first ≤ daysBefore second := by
  unfold daysBefore
  omega

theorem sum_take_mono (lengths : List Nat) {few many : Nat} (le : few ≤ many) :
    (lengths.take few).sum ≤ (lengths.take many).sum := by
  have front : (lengths.take many).take few = lengths.take few := by
    rw [List.take_take, Nat.min_eq_left le]
  rw [← List.take_append_drop few (lengths.take many), List.sum_append, front]
  exact Nat.le_add_right _ _

theorem sum_take_succ {lengths : List Nat} {index length : Nat}
    (there : lengths[index]? = some length) :
    (lengths.take (index + 1)).sum = (lengths.take index).sum + length := by
  rw [List.take_add_one, there, List.sum_append]
  rfl

theorem ofDays_before {first second : Int} (less : first < second) :
    (ofDays first).Before (ofDays second) := by
  obtain ⟨firstBegun, _⟩ := daysBefore_yearOf first
  obtain ⟨_, secondEnded⟩ := daysBefore_yearOf second
  unfold Before
  rcases Int.lt_trichotomy (ofDays first).year (ofDays second).year with earlier | same | later
  · exact .inl earlier
  · refine .inr ⟨same, ?_⟩
    obtain ⟨i, length, _, firstMonth, _, _, firstTotal⟩ := ofDays_spec first
    obtain ⟨j, other, there, secondMonth, _, inMonth, secondTotal⟩ := ofDays_spec second
    rw [same] at firstTotal
    rcases Nat.lt_trichotomy i j with earlier | rfl | later
    · exact .inl (by omega)
    · exact .inr ⟨by omega, by omega⟩
    · -- all of the later day's month would lie before the earlier day
      have whole := sum_take_succ there
      have past := sum_take_mono (monthLengths (isLeap (ofDays second).year))
        (show j + 1 ≤ i from later)
      omega
  · have past : daysBefore (yearOf second + 1) ≤ daysBefore (yearOf first) :=
      daysBefore_mono later
    omega

end Date

namespace Instant

/-! ### Numbers of a fixed width -/

theorem padded_succ {width : Nat} (positive : 0 < width) (n : Nat) :
    padded (width + 1) n = padded width (n / 10) ++ [Nat.digitChar (n % 10)] := by
  unfold padded
  dsimp only
  by_cases single : n < 10
  · have zero : Nat.toDigits 10 (n / 10) = ['0'] := by
      rw [Nat.div_eq_of_lt single]
      rfl
    have zeros : List.replicate (width - 1) '0' ++ ['0'] = List.replicate width '0' := by
      rw [← List.replicate_succ', Nat.sub_add_cancel positive]
    rw [zero, Nat.toDigits_of_lt_base single, Nat.mod_eq_of_lt single, List.length_singleton,
      List.length_singleton, zeros, Nat.add_sub_cancel]
  · have split := Nat.toDigits_of_base_le (show 1 < 10 by decide) (Nat.not_lt.mp single)
    rw [split, List.length_append, List.length_singleton, Nat.add_sub_add_right,
      ← List.append_assoc]

theorem digitChar_lt {a b : Nat} (less : a < b) (fits : b < 10) :
    Nat.digitChar a < Nat.digitChar b := by
  have each : ∀ b < 10, ∀ a < b, Nat.digitChar a < Nat.digitChar b := by decide
  exact each b fits a less

/-- Of two numbers with the same number of digits the smaller one comes first, whatever follows. -/
theorem padded_append_lt {width a b : Nat} (positive : 0 < width) (less : a < b)
    (fits : b < 10 ^ width) (rest later : List Char) :
    padded width a ++ rest < padded width b ++ later := by
  induction width, positive using Nat.le_induction generalizing a b rest later with
  | base =>
      have single (n : Nat) (small : n < 10) : padded 1 n = [Nat.digitChar n] := by
        unfold padded
        rw [Nat.toDigits_of_lt_base small]
        rfl
      rw [single a (by omega), single b (by omega)]
      exact List.cons_lt_cons_iff.mpr (.inl (digitChar_lt less (by omega)))
  | succ width positive ih =>
      rw [padded_succ positive, padded_succ positive, List.append_assoc, List.append_assoc]
      rw [Nat.pow_succ] at fits
      by_cases front : a / 10 < b / 10
      · exact ih front (by omega) _ _
      · have same : a / 10 = b / 10 := by omega
        rw [same]
        apply List.append_left_lt
        exact List.cons_lt_cons_iff.mpr (.inl (digitChar_lt (by omega) (by omega)))

/-! ### Whole texts -/

theorem cons_lt_cons_self {c : Char} {first second : List Char} (less : first < second) :
    c :: first < c :: second :=
  List.cons_lt_cons_iff.mpr (.inr ⟨rfl, less⟩)

theorem dateChars_append_lt {first second : Date} (before : first.Before second)
    (began : 0 ≤ first.year) (ended : second.year ≤ 9999) (months : second.month ≤ 12)
    (days : second.day ≤ 31) (rest later : List Char) :
    dateChars first ++ rest < dateChars second ++ later := by
  have firstEnded : first.year ≤ 9999 := by
    unfold Date.Before at before
    omega
  have secondBegan : 0 ≤ second.year := by
    unfold Date.Before at before
    omega
  unfold dateChars yearChars
  rw [if_pos ⟨began, firstEnded⟩, if_pos ⟨secondBegan, ended⟩]
  simp only [List.append_assoc, List.cons_append]
  rcases before with year | ⟨sameYear, month | ⟨sameMonth, day⟩⟩
  · exact padded_append_lt (by decide) (by omega) (by omega) _ _
  · rw [sameYear]
    apply List.append_left_lt
    apply cons_lt_cons_self
    exact padded_append_lt (by decide) month (by omega) _ _
  · rw [sameYear, sameMonth]
    apply List.append_left_lt
    apply cons_lt_cons_self
    apply List.append_left_lt
    apply cons_lt_cons_self
    exact padded_append_lt (by decide) day (by omega) _ _

theorem timeChars_append_lt {first second : Nat} (less : first < second)
    (fits : second < 86400000) (rest later : List Char) :
    timeChars first ++ rest < timeChars second ++ later := by
  unfold timeChars
  simp only [List.append_assoc, List.cons_append]
  by_cases hour : first / 3600000 < second / 3600000
  · exact padded_append_lt (by decide) hour (by omega) _ _
  have sameHour : first / 3600000 = second / 3600000 := by omega
  rw [sameHour]
  apply List.append_left_lt
  apply cons_lt_cons_self
  by_cases minute : first / 60000 % 60 < second / 60000 % 60
  · exact padded_append_lt (by decide) minute (by omega) _ _
  have sameMinute : first / 60000 % 60 = second / 60000 % 60 := by omega
  rw [sameMinute]
  apply List.append_left_lt
  apply cons_lt_cons_self
  by_cases inMinute : first / 1000 % 60 < second / 1000 % 60
  · exact padded_append_lt (by decide) inMinute (by omega) _ _
  have sameSecond : first / 1000 % 60 = second / 1000 % 60 := by omega
  rw [sameSecond]
  apply List.append_left_lt
  apply cons_lt_cons_self
  exact padded_append_lt (by decide) (by omega) (by omega) _ _

theorem text_lt_of_lt {first second : Instant} (began : 0 ≤ first.year)
    (ended : second.year ≤ 9999) (less : first.milliseconds < second.milliseconds) :
    first.text < second.text := by
  have positive : (0 : Int) < dayLength := by decide
  have firstStart := Int.emod_nonneg first.milliseconds (by decide : dayLength ≠ 0)
  have secondStart := Int.emod_nonneg second.milliseconds (by decide : dayLength ≠ 0)
  have firstEnd := Int.emod_lt_of_pos first.milliseconds positive
  have secondEnd := Int.emod_lt_of_pos second.milliseconds positive
  have firstWhole := Int.mul_ediv_add_emod first.milliseconds dayLength
  have secondWhole := Int.mul_ediv_add_emod second.milliseconds dayLength
  have length : dayLength = 86400000 := rfl
  unfold text
  rw [String.lt_iff, String.toList_ofList, String.toList_ofList, List.append_assoc,
    List.append_assoc]
  by_cases earlier : first.milliseconds / dayLength < second.milliseconds / dayLength
  · exact dateChars_append_lt (Date.ofDays_before (by omega)) began ended (Date.month_ofDays_le _)
      (Date.day_ofDays_le _) _ _
  · have sameDay : first.milliseconds / dayLength = second.milliseconds / dayLength := by
      rw [length] at *
      omega
    rw [sameDay]
    apply List.append_left_lt
    apply cons_lt_cons_self
    rw [length] at *
    exact timeChars_append_lt (by omega) (by omega) _ _

section

variable {first second : Instant} (firstDated : 0 ≤ first.year ∧ first.year ≤ 9999)
  (secondDated : 0 ≤ second.year ∧ second.year ≤ 9999)

include firstDated secondDated

/-- In years of four digits, the order of texts is the order of instants, to the millisecond. -/
theorem text_lt_iff : first.text < second.text ↔ first.milliseconds < second.milliseconds := by
  refine ⟨fun less => ?_, text_lt_of_lt firstDated.1 secondDated.2⟩
  apply Int.lt_of_not_ge
  intro notBefore
  rcases Int.lt_or_eq_of_le notBefore with after | same
  · exact String.lt_irrefl _ (String.lt_trans less (text_lt_of_lt secondDated.1 firstDated.2 after))
  · have sameText : first.text = second.text := by rw [text, text, same]
    exact String.lt_irrefl _ (sameText ▸ less)

theorem text_eq_iff : first.text = second.text ↔ first.milliseconds = second.milliseconds := by
  constructor
  · intro same
    have notBefore := mt (text_lt_iff firstDated secondDated).mpr (same ▸ String.lt_irrefl _)
    have notAfter := mt (text_lt_iff secondDated firstDated).mpr (same ▸ String.lt_irrefl _)
    omega
  · intro same
    rw [text, text, same]

end

end Instant

end PresenceGateway
