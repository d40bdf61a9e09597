import PresenceGateway.Proofs.Decimal.Digits
import PresenceGateway.Proofs.Time.Calendar
import PresenceGateway.Time.Instant
/-!
Instants are read back from their texts, to the millisecond, as long as the year has four digits.
-/
namespace PresenceGateway.Instant

/-! ### Numbers of a fixed width -/

theorem length_padded {width n : Nat} (positive : 0 < width) (fits : n < 10 ^ width) :
    (padded width n).length = width := by
  have short : (Nat.toDigits 10 n).length ≤ width :=
    (Nat.length_toDigits_le_iff (by decide) positive).mpr fits
  unfold padded
  rw [List.length_append, List.length_replicate]
  omega

theorem isDigit_of_mem_padded {width n : Nat} {c : Char} (inside : c ∈ padded width n) :
    Numeral.isDigit c = true := by
  rcases List.mem_append.mp inside with zero | digit
  · rw [List.eq_of_mem_replicate zero]
    rfl
  · exact Numeral.isDigit_of_mem_digits digit

theorem ofDigits_padded (width n : Nat) :
    Numeral.ofDigits ((padded width n).map Numeral.digitValue) = n := by
  have zeros (count : Nat) :
      ((List.replicate count '0').map Numeral.digitValue).foldl
        (fun value digit => value * 10 + digit) 0 = 0 := by
    induction count with
    | zero => rfl
    | succ count ih =>
        rw [List.replicate_succ, List.map_cons, List.foldl_cons]
        exact ih
  unfold padded Numeral.ofDigits
  rw [List.map_append, List.foldl_append, zeros]
  exact Numeral.ofDigits_digits n

theorem takeNumber_padded {width n : Nat} (positive : 0 < width) (fits : n < 10 ^ width)
    (rest : List Char) : takeNumber width (padded width n ++ rest) = some (n, rest) := by
  have front : (padded width n ++ rest).take width = padded width n :=
    List.take_left' (length_padded positive fits)
  have back : (padded width n ++ rest).drop width = rest :=
    List.drop_left' (length_padded positive fits)
  have digits : (padded width n).all Numeral.isDigit = true :=
    List.all_eq_true.mpr fun c inside => isDigit_of_mem_padded inside
  unfold takeNumber
  dsimp only
  rw [front, back, if_pos ⟨length_padded positive fits, digits⟩, ofDigits_padded]

/-- Three digits behind the point are milliseconds. -/
theorem takeFraction_padded {n : Nat} (fits : n < 1000) :
    takeFraction ('.' :: (padded 3 n ++ ['Z'])) = some (n * 1000000, ['Z']) := by
  have digits : ∀ c ∈ padded 3 n, Numeral.isDigit c = true := fun c => isDigit_of_mem_padded
  have three : ((padded 3 n).map Numeral.digitValue).length = 3 := by
    rw [List.length_map]
    exact length_padded (by decide) fits
  have taken : Numeral.takeDigits (padded 3 n ++ ['Z']) =
      ((padded 3 n).map Numeral.digitValue, ['Z']) :=
    Numeral.takeDigits_append digits fun c front => by
      cases front
      rfl
  have value := ofDigits_padded 3 n
  rw [takeFraction, taken]
  generalize (padded 3 n).map Numeral.digitValue = given at three value
  have whole : given.take 9 = given := List.take_of_length_le (by omega)
  cases given with
  | nil => cases three
  | cons first more =>
      dsimp only
      rw [whole, value, three]
      rfl

/-! ### Whole texts -/

def year (instant : Instant) : Int :=
  (Date.ofDays (instant.milliseconds / dayLength + epochDay)).year

theorem readTime {time : Nat} (fits : time < 86400000) :
    ∃ hour minute second fraction : Nat,
      hour < 24 ∧ minute < 60 ∧ second < 60 ∧ fraction < 1000 ∧
      ((hour * 60 + minute) * 60 + second) * 1000 + fraction = time ∧
      timeChars time = padded 2 hour ++ ':' :: padded 2 minute ++ ':' :: padded 2 second ++
        '.' :: padded 3 fraction := by
  refine ⟨time / 3600000, time / 60000 % 60, time / 1000 % 60, time % 1000, ?_, ?_, ?_, ?_, ?_, rfl⟩
  · omega
  · omega
  · omega
  · omega
  · omega

/-- The text of an instant in a year of four digits is read as that instant, less what is smaller
than a millisecond. -/
theorem parse?_text {instant : Instant} (began : 0 ≤ instant.year) (ended : instant.year ≤ 9999) :
    parse? instant.text = some { nanoseconds := instant.milliseconds * 1000000 } := by
  let day := instant.milliseconds / dayLength + epochDay
  have positive : (0 : Int) < dayLength := by decide
  have notNegative := Int.emod_nonneg instant.milliseconds (by decide : dayLength ≠ 0)
  have within := Int.emod_lt_of_pos instant.milliseconds positive
  have split := Int.mul_ediv_add_emod instant.milliseconds dayLength
  have inDay : (instant.milliseconds % dayLength).toNat < 86400000 := by
    unfold dayLength at notNegative within ⊢
    omega
  obtain ⟨hour, minute, second, fraction, hours, minutes, seconds, fractions, total, written⟩ :=
    readTime inDay
  obtain ⟨year, same⟩ := Int.eq_ofNat_of_zero_le began
  have yearFits : year < 10 ^ 4 := by omega
  have yearDigits : yearChars (Date.ofDays day).year = padded 4 year := by
    have four : 0 ≤ (Date.ofDays day).year ∧ (Date.ofDays day).year ≤ 9999 := ⟨began, ended⟩
    have size : (Date.ofDays day).year.natAbs = year := by
      change instant.year.natAbs = year
      omega
    rw [yearChars, if_pos four, size]
  have monthFits : (Date.ofDays day).month < 10 ^ 2 := by
    have bound := Date.month_ofDays_le day
    omega
  have dayFits : (Date.ofDays day).day < 10 ^ 2 := by
    have bound := Date.day_ofDays_le day
    omega
  have chars : instant.text.toList = padded 4 year ++ ('-' :: (padded 2 (Date.ofDays day).month ++
      ('-' :: (padded 2 (Date.ofDays day).day ++ ('T' :: (padded 2 hour ++ (':' ::
        (padded 2 minute ++ (':' :: (padded 2 second ++
          ('.' :: (padded 3 fraction ++ ['Z'])))))))))))) := by
    change (String.ofList (dateChars (Date.ofDays day) ++
      'T' :: timeChars (instant.milliseconds % dayLength).toNat ++ ['Z'])).toList = _
    rw [String.toList_ofList, dateChars, yearDigits, written]
    simp only [List.append_assoc, List.cons_append]
  have date : Date.mk year (Date.ofDays day).month (Date.ofDays day).day = Date.ofDays day := by
    have here : (Date.ofDays day).year = year := same
    rw [← here]
  have valid := Date.isValid_ofDays day
  have back := Date.toDays_ofDays day
  unfold parse?
  rw [chars, takeNumber_padded (by decide) yearFits]
  simp only [Option.bind_eq_bind, Option.bind_some, takeChar, if_true]
  rw [takeNumber_padded (by decide) monthFits]
  simp only [Option.bind_some, if_true]
  rw [takeNumber_padded (by decide) dayFits]
  simp only [Option.bind_some, takeSeparator, true_or, if_true]
  rw [takeNumber_padded (by decide) (show hour < 10 ^ 2 by omega)]
  simp only [Option.bind_some, if_true]
  rw [takeNumber_padded (by decide) (show minute < 10 ^ 2 by omega)]
  simp only [Option.bind_some, if_true]
  rw [takeNumber_padded (by decide) (show second < 10 ^ 2 by omega)]
  simp only [Option.bind_some]
  rw [takeFraction_padded fractions]
  simp only [Option.bind_some]
  have zone : readOffset ['Z'] = some 0 := rfl
  rw [zone, Option.bind_some, date, valid, back, if_pos ⟨rfl, by omega, by omega, by omega⟩]
  apply congrArg (fun nanoseconds : Int => some (Instant.mk nanoseconds))
  simp only [day]
  unfold dayLength at *
  omega

end PresenceGateway.Instant
