import PresenceGateway.Proofs.Text.Items
import PresenceGateway.Text.LowerCase
/-!
Words that are plain in small letters. Of all capitals outside ASCII only the Kelvin sign and the dotted
I have an ASCII letter in their small form, so a word without a k whose small form is in ASCII letters is
itself in ASCII letters, of either case. Its small form is taken letter by letter, and the blanks around
it stay what they are, so it can be trimmed before that or after.
-/
namespace PresenceGateway.Text

/-- Blanks, and the small letters of ASCII that are the small form of ASCII letters only. -/
def steadySet : CodeSet :=
  [(0x09, 0x0D), (0x20, 0x20), (0x61, 0x6A), (0x6C, 0x7A), (0x85, 0x85), (0xA0, 0xA0),
    (0x1680, 0x1680), (0x2000, 0x200A), (0x2028, 0x2029), (0x202F, 0x202F), (0x205F, 0x205F),
    (0x3000, 0x3000)]

def IsSteady (c : Char) : Prop :=
  steadySet.holds c = true

instance (c : Char) : Decidable (IsSteady c) :=
  inferInstanceAs (Decidable (steadySet.holds c = true))

def IsSimple (c : Char) : Prop :=
  c.toNat < 0x80 ∨ IsSteady c

instance (c : Char) : Decidable (IsSimple c) :=
  inferInstanceAs (Decidable (c.toNat < 0x80 ∨ IsSteady c))

/-- Neither a capital outside ASCII nor its small letter is steady. -/
theorem capitalRuns_apart :
    ∀ run ∈ capitalRuns, ∀ range ∈ steadySet,
      (run.last < range.1 ∨ range.2 < run.first) ∧
        (run.last + run.shift < range.1 ∨ range.2 < run.first + run.shift) := by
  decide +kernel

theorem isSteady_iff (c : Char) :
    IsSteady c ↔ ∃ range ∈ steadySet, range.1 ≤ c.toNat ∧ c.toNat ≤ range.2 := by
  rw [IsSteady, CodeSet.holds, List.any_eq_true]
  simp only [Bool.and_eq_true, decide_eq_true_eq]

theorem isSteady_of_isBlank {c : Char} (blank : isBlank c = true) : IsSteady c := by
  simp only [isBlank, Bool.or_eq_true, Bool.and_eq_true, decide_eq_true_eq, beq_iff_eq] at blank
  simp only [isSteady_iff, steadySet, List.mem_cons, List.not_mem_nil, or_false, exists_eq_or_imp,
    exists_eq_left]
  omega

/-! ### Small forms of simple characters -/

/-- A fact about all characters of ASCII is one about finitely many. -/
theorem forall_ascii (holds : Char → Prop) [DecidablePred holds]
    (each : ∀ n : Fin 0x80, holds (Char.ofNat n)) {c : Char} (ascii : c.toNat < 0x80) : holds c := by
  have here := each ⟨c.toNat, ascii⟩
  dsimp only at here
  rwa [Char.ofNat_toNat] at here

theorem toLower_of_large {c : Char} (large : 0x80 ≤ c.toNat) : c.toLower = c := by
  unfold Char.toLower
  rw [dif_neg]
  intro capital
  have bound := UInt32.le_iff_toNat_le.mp capital.2
  have small : c.toNat ≤ 90 := bound
  omega

theorem lowerChar_of_isSimple {c : Char} (simple : IsSimple c) : lowerChar c = [c.toLower] := by
  unfold lowerChar
  by_cases ascii : c.toNat < 0x80
  · rw [if_pos ascii]
  · obtain ⟨range, listed, low, high⟩ := (isSteady_iff c).mp (simple.resolve_left ascii)
    have undotted : c.toNat ≠ 0x130 := by
      intro dotted
      rw [dotted] at low high
      revert range
      decide
    have small : capitalRuns.find? (fun run => run.first ≤ c.toNat && c.toNat ≤ run.last &&
        (c.toNat - run.first) % run.stride == 0) = none := by
      refine List.find?_eq_none.mpr fun run among held => ?_
      simp only [Bool.and_eq_true, decide_eq_true_eq] at held
      have apart := (capitalRuns_apart run among range listed).1
      omega
    rw [if_neg ascii, if_neg undotted]
    dsimp only
    rw [small, toLower_of_large (Nat.le_of_not_lt ascii)]

/-- What becomes steady in small form is simple. -/
theorem isSimple_of_lowerChar {c : Char} (steady : ∀ d ∈ lowerChar c, IsSteady d) : IsSimple c := by
  unfold lowerChar at steady
  split at steady
  · rename_i ascii
    exact .inl ascii
  · split at steady
    · exact absurd (steady '\u0307' (by decide)) (by decide)
    · dsimp only at steady
      split at steady
      · rename_i run found
        have among := List.mem_of_find?_eq_some found
        have held := List.find?_some found
        simp only [Bool.and_eq_true, decide_eq_true_eq] at held
        obtain ⟨range, listed, low, high⟩ :=
          (isSteady_iff _).mp (steady _ (List.mem_singleton.mpr rfl))
        have positive : ∀ range ∈ steadySet, 0 < range.1 := by decide
        have above := positive range listed
        have apart := (capitalRuns_apart run among range listed).2
        -- A number that is no code point is taken for zero.
        have code (n : Nat) : (Char.ofNat n).toNat = n ∨ (Char.ofNat n).toNat = 0 := by
          by_cases valid : n.isValidChar
          · rw [Char.ofNat, dif_pos valid]
            exact .inl rfl
          · rw [Char.ofNat, dif_neg valid]
            exact .inr rfl
        rcases code (c.toNat + run.shift).toNat with same | zero
        · rw [same] at low high
          omega
        · rw [zero] at low
          omega
      · exact .inr (steady c (List.mem_singleton.mpr rfl))

theorem lowerChar_ne_nil (c : Char) : lowerChar c ≠ [] := by
  unfold lowerChar
  split
  · exact List.cons_ne_nil _ _
  · split
    · exact List.cons_ne_nil _ _
    · dsimp only
      split <;> exact List.cons_ne_nil _ _

theorem isBlank_toLower (c : Char) : isBlank c.toLower = isBlank c := by
  by_cases ascii : c.toNat < 0x80
  · exact forall_ascii (fun c => isBlank c.toLower = isBlank c) (by decide +kernel) ascii
  · rw [toLower_of_large (Nat.le_of_not_lt ascii)]

/-! ### Small forms of sequences -/

theorem lowerChars_of_simple {cs : List Char} (simple : ∀ c ∈ cs, IsSimple c) (before : List Char) :
    lowerChars before cs = cs.map Char.toLower := by
  induction cs generalizing before with
  | nil => rfl
  | cons c rest ih =>
      obtain ⟨first, others⟩ := List.forall_mem_cons.mp simple
      have other : c ≠ 'Σ' := by
        rintro rfl
        exact absurd first (by decide)
      rw [lowerChars, if_neg other, lowerChar_of_isSimple first, ih others]
      rfl

theorem simple_of_lowerChars {before cs : List Char}
    (steady : ∀ d ∈ lowerChars before cs, IsSteady d) : ∀ c ∈ cs, IsSimple c := by
  induction cs generalizing before with
  | nil => exact List.forall_mem_nil _
  | cons c rest ih =>
      rw [lowerChars, List.forall_mem_append] at steady
      refine List.forall_mem_cons.mpr ⟨isSimple_of_lowerChar ?_, ih steady.2⟩
      split at steady
      · -- Neither small sigma is steady.
        split at steady
        · exact absurd (steady.1 _ (List.mem_singleton.mpr rfl)) (by decide)
        · exact absurd (steady.1 _ (List.mem_singleton.mpr rfl)) (by decide)
      · exact steady.1

theorem trimChars_map {change : Char → Char} (kept : ∀ c, isBlank (change c) = isBlank c)
    (cs : List Char) : trimChars (cs.map change) = (trimChars cs).map change := by
  have same : isBlank ∘ change = isBlank := funext kept
  unfold trimChars
  rw [List.dropWhile_map, same, ← List.map_reverse, List.dropWhile_map, same, ← List.map_reverse]

/-! ### Steady texts -/

def IsSteadyText (text : String) : Prop :=
  ∀ c ∈ text.toList, IsSteady c

theorem lowerCase_toList (text : String) : (lowerCase text).toList = lowerChars [] text.toList :=
  String.toList_ofList

theorem lowerCase_eq_empty_iff (text : String) : lowerCase text = "" ↔ text = "" := by
  rw [← String.toList_inj, ← String.toList_inj, lowerCase_toList]
  cases text.toList with
  | nil => exact Iff.rfl
  | cons c rest =>
      refine iff_of_false (fun nothing => ?_) (List.cons_ne_nil _ _)
      obtain ⟨first, _⟩ := List.append_eq_nil_iff.mp nothing
      split at first
      · split at first <;> cases first
      · exact lowerChar_ne_nil c first

/-- The blanks around a steady text are steady as well. -/
theorem isSteadyText_trim_iff (text : String) : IsSteadyText (trim text) ↔ IsSteadyText text := by
  unfold IsSteadyText
  rw [trim_toList]
  constructor
  · intro steady
    obtain ⟨before, after, left, right, shape⟩ := exists_surrounded text.toList
    rw [shape, List.forall_mem_append, List.forall_mem_append]
    exact ⟨fun c inside => isSteady_of_isBlank (left c inside), steady,
      fun c inside => isSteady_of_isBlank (right c inside)⟩
  · exact fun steady c inside => steady c (mem_of_mem_trimChars inside)

/-- A text with simple characters can be trimmed before or after it is put in small letters. -/
theorem lowerCase_trim_of_simple {text : String} (simple : ∀ c ∈ text.toList, IsSimple c) :
    lowerCase (trim text) = trim (lowerCase text) := by
  have inner : ∀ c ∈ (trim text).toList, IsSimple c := by
    rw [trim_toList]
    exact fun c inside => simple c (mem_of_mem_trimChars inside)
  rw [← String.toList_inj, lowerCase_toList, lowerChars_of_simple inner, trim_toList, trim_toList,
    lowerCase_toList, lowerChars_of_simple simple, trimChars_map isBlank_toLower]

theorem simple_of_isSteadyText {text : String} (steady : IsSteadyText (lowerCase text)) :
    ∀ c ∈ text.toList, IsSimple c := by
  unfold IsSteadyText at steady
  rw [lowerCase_toList] at steady
  exact simple_of_lowerChars steady

theorem simple_of_trim {text : String} (steady : IsSteadyText (lowerCase (trim text))) :
    ∀ c ∈ text.toList, IsSimple c := by
  have inner := simple_of_isSteadyText steady
  rw [trim_toList] at inner
  obtain ⟨before, after, left, right, shape⟩ := exists_surrounded text.toList
  rw [shape, List.forall_mem_append, List.forall_mem_append]
  exact ⟨fun c inside => .inr (isSteady_of_isBlank (left c inside)), inner,
    fun c inside => .inr (isSteady_of_isBlank (right c inside))⟩

/-- A change of case that is made around the blanks as well leaves a steady word what it is. -/
theorem lowerCase_trim_eq {first second word : String} (steady : IsSteadyText word)
    (same : lowerCase first = lowerCase second) (found : lowerCase (trim first) = word) :
    lowerCase (trim second) = word := by
  have trimmed : lowerCase (trim first) = trim (lowerCase first) :=
    lowerCase_trim_of_simple (simple_of_trim (found.symm ▸ steady))
  have whole : IsSteadyText (lowerCase first) := by
    rwa [← isSteadyText_trim_iff, ← trimmed, found]
  calc lowerCase (trim second)
      = trim (lowerCase second) :=
        lowerCase_trim_of_simple (simple_of_isSteadyText (same ▸ whole))
    _ = trim (lowerCase first) := by rw [same]
    _ = word := trimmed.symm.trans found

end PresenceGateway.Text
