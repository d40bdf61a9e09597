import Mathlib.Data.List.TakeWhile
import PresenceGateway.Proofs.Decimal.Digits
import PresenceGateway.Proofs.Text.Items
/-!
How numerals are written. A spelling is a sign or none, digits with or without a point among, before or
after them, and an exponent or none. Every spelling is read as its numeral, and what is read is one, so
the spellings with blanks around them are exactly the texts that are trimmed to a numeral.
-/
namespace PresenceGateway.Numeral

/-! ### Spellings -/

inductive Sign where
  | none
  | plus
  | minus

namespace Sign

def chars : Sign → List Char
  | none => []
  | plus => ['+']
  | minus => ['-']

def isMinus : Sign → Bool
  | minus => true
  | _ => false

def ofNegative (negative : Bool) : Sign :=
  if negative then minus else none

theorem chars_ofNegative (negative : Bool) :
    (ofNegative negative).chars = if negative then ['-'] else [] := by
  cases negative <;> rfl

theorem isMinus_ofNegative (negative : Bool) : (ofNegative negative).isMinus = negative := by
  cases negative <;> rfl

end Sign

structure Exponent where
  mark : Char
  sign : Sign
  digits : List Char
  marked : mark = 'e' ∨ mark = 'E'
  all : ∀ c ∈ digits, isDigit c = true
  nonempty : digits ≠ []

namespace Exponent

def chars (exponent : Exponent) : List Char :=
  exponent.mark :: (exponent.sign.chars ++ exponent.digits)

def value (exponent : Exponent) : Int :=
  if exponent.sign.isMinus then -ofDigits (exponent.digits.map digitValue)
  else ofDigits (exponent.digits.map digitValue)

def ofInt (value : Int) : Exponent :=
  { mark := 'e'
    sign := if value < 0 then .minus else .plus
    digits := Decimal.digits value.natAbs
    marked := .inl rfl
    all := fun _ => isDigit_of_mem_digits
    nonempty := digits_ne_nil _ }

theorem chars_ofInt (value : Int) :
    (ofInt value).chars =
      'e' :: (if value < 0 then '-' else '+') :: Decimal.digits value.natAbs := by
  rw [chars, ofInt]
  split <;> rfl

theorem value_ofInt (size : Int) : (ofInt size).value = size := by
  rw [value, ofInt]
  dsimp only
  rw [ofDigits_digits]
  by_cases negative : size < 0
  · rw [if_pos negative]
    change -(size.natAbs : Int) = size
    omega
  · rw [if_neg negative]
    change (size.natAbs : Int) = size
    omega

end Exponent

/-- A written numeral. There is a digit on at least one side of its point, if it has one. -/
structure Spelling where
  sign : Sign
  whole : List Char
  fraction : Option (List Char)
  exponent : Option Exponent
  all : ∀ c ∈ whole ++ fraction.getD [], isDigit c = true
  nonempty : whole ++ fraction.getD [] ≠ []

namespace Spelling

def pointChars (spelling : Spelling) : List Char :=
  spelling.fraction.elim [] ('.' :: ·)

def exponentChars (spelling : Spelling) : List Char :=
  spelling.exponent.elim [] Exponent.chars

def chars (spelling : Spelling) : List Char :=
  spelling.sign.chars ++ (spelling.whole ++ (spelling.pointChars ++ spelling.exponentChars))

def numeral (spelling : Spelling) : Numeral :=
  { negative := spelling.sign.isMinus
    whole := spelling.whole.map digitValue
    fraction := (spelling.fraction.getD []).map digitValue
    exponent := spelling.exponent.map Exponent.value }

end Spelling

/-! ### What is read of a spelling -/

theorem takeSign_chars (sign : Sign) {body : List Char}
    (unsigned : ∀ c ∈ body.head?, c ≠ '-' ∧ c ≠ '+') :
    takeSign (sign.chars ++ body) = (sign.isMinus, body) := by
  cases sign with
  | none =>
      cases body with
      | nil => rfl
      | cons c rest =>
          obtain ⟨notMinus, notPlus⟩ := unsigned c rfl
          simp [Sign.chars, Sign.isMinus, takeSign, notMinus, notPlus]
  | plus => rfl
  | minus => rfl

theorem unsigned_of_isDigit {c : Char} (digit : isDigit c = true) : c ≠ '-' ∧ c ≠ '+' := by
  constructor
  · rintro rfl
    cases digit
  · rintro rfl
    cases digit

theorem readExponent_chars (exponent : Exponent) :
    readExponent exponent.chars = some (some exponent.value) := by
  obtain ⟨mark, sign, digits, marked, all, nonempty⟩ := exponent
  have unsigned : ∀ c ∈ digits.head?, c ≠ '-' ∧ c ≠ '+' := fun c front =>
    unsigned_of_isDigit (all c (List.mem_of_mem_head? front))
  have read := takeSign_chars sign unsigned
  unfold Exponent.chars readExponent Exponent.value
  dsimp only
  rw [if_pos marked, read]
  dsimp only
  rw [takeDigits_eq all]
  cases shape : digits.map digitValue with
  | nil => exact absurd (List.map_eq_nil_iff.mp shape) nonempty
  | cons first more => rfl

theorem notDigit_of_exponentChars (spelling : Spelling) :
    ∀ c ∈ spelling.exponentChars.head?, isDigit c = false ∧ c ≠ '.' := by
  intro c front
  rw [Spelling.exponentChars] at front
  cases written : spelling.exponent with
  | none =>
      rw [written] at front
      cases front
  | some exponent =>
      rw [written] at front
      cases front
      rcases exponent.marked with mark | mark
      · rw [mark]
        decide
      · rw [mark]
        decide

theorem readExponent_exponentChars (spelling : Spelling) :
    readExponent spelling.exponentChars = some (spelling.exponent.map Exponent.value) := by
  unfold Spelling.exponentChars
  cases spelling.exponent with
  | none => rfl
  | some exponent => exact readExponent_chars exponent

theorem unsigned_chars (spelling : Spelling) :
    ∀ c ∈ (spelling.whole ++ (spelling.pointChars ++ spelling.exponentChars)).head?,
      c ≠ '-' ∧ c ≠ '+' := by
  intro c front
  have given := spelling.nonempty
  cases whole : spelling.whole with
  | cons first rest =>
      have digit := spelling.all first (List.mem_append_left _ (whole ▸ List.mem_cons_self))
      rw [whole] at front
      cases front
      exact unsigned_of_isDigit digit
  | nil =>
      rw [whole, List.nil_append, Spelling.pointChars] at front
      cases fraction : spelling.fraction with
      | none => exact absurd (by rw [whole, fraction]; rfl) given
      | some digits =>
          rw [fraction] at front
          cases front
          decide

/-- A spelling is read as its numeral. -/
theorem read?_chars (spelling : Spelling) : read? spelling.chars = some spelling.numeral := by
  have later := notDigit_of_exponentChars spelling
  have exponent := readExponent_exponentChars spelling
  have left : ∀ c ∈ spelling.whole, isDigit c = true :=
    fun c inside => spelling.all c (List.mem_append_left _ inside)
  have right : ∀ c ∈ spelling.fraction.getD [], isDigit c = true :=
    fun c inside => spelling.all c (List.mem_append_right _ inside)
  have given := spelling.nonempty
  have signed := takeSign_chars spelling.sign (unsigned_chars spelling)
  unfold Spelling.pointChars at signed
  unfold read? Spelling.chars Spelling.numeral Spelling.pointChars
  cases fraction : spelling.fraction with
  | none =>
      rw [fraction] at given signed
      rw [Option.elim_none, List.nil_append] at signed ⊢
      rw [Option.getD_none, List.append_nil] at given
      have taken := takeDigits_append left fun c front => (later c front).1
      cases shape : spelling.exponentChars with
      | nil =>
          rw [shape, List.append_nil] at signed taken
          rw [shape] at exponent
          simp [signed, taken, given, exponent]
      | cons mark rest =>
          have notPoint : mark ≠ '.' := (later mark (by rw [shape]; rfl)).2
          rw [shape] at signed taken exponent
          simp [signed, taken, notPoint, given, exponent]
  | some digits =>
      rw [fraction] at given right signed
      rw [Option.getD_some] at given right
      have stops : ∀ c ∈ ('.' :: (digits ++ spelling.exponentChars)).head?, isDigit c = false := by
        intro c front
        cases front
        rfl
      have taken := takeDigits_append left stops
      have fractionTaken := takeDigits_append right fun c front => (later c front).1
      have oneSide : spelling.whole = [] → digits ≠ [] := fun none => by
        rwa [none] at given
      rw [Option.elim_some, List.cons_append] at signed ⊢
      simpa [signed, taken, fractionTaken, exponent] using oneSide

/-! ### What a numeral is read from -/

theorem exists_sign (cs : List Char) :
    ∃ sign : Sign, cs = sign.chars ++ (takeSign cs).2 ∧ (takeSign cs).1 = sign.isMinus := by
  unfold takeSign
  split
  · exact ⟨.minus, rfl, rfl⟩
  · exact ⟨.plus, rfl, rfl⟩
  · exact ⟨.none, rfl, rfl⟩

theorem exists_exponent {cs : List Char} {value : Int}
    (read : readExponent cs = some (some value)) :
    ∃ exponent : Exponent, cs = exponent.chars ∧ value = exponent.value := by
  cases cs with
  | nil => cases read
  | cons mark rest =>
      rw [readExponent] at read
      split at read
      · rename_i marked
        obtain ⟨sign, shape, minus⟩ := exists_sign rest
        obtain ⟨digits, all, unsigned, taken⟩ := exists_digits (takeSign rest).2
        dsimp only at read
        split at read
        · cases read
        · rename_i values nonempty whole
          rw [whole] at unsigned taken
          rw [List.append_nil] at unsigned
          have some_ : digits ≠ [] := by
            rintro rfl
            exact nonempty taken
          refine ⟨⟨mark, sign, digits, marked, all, some_⟩, ?_, ?_⟩
          · dsimp only [Exponent.chars]
            rw [← unsigned, ← shape]
          · dsimp only [Exponent.value]
            rw [← minus, ← taken]
            cases read
            rfl
        · cases read
      · cases read

theorem eq_nil_of_readExponent {cs : List Char} (read : readExponent cs = some none) : cs = [] := by
  cases cs with
  | nil => rfl
  | cons mark rest =>
      rw [readExponent] at read
      split at read
      · dsimp only at read
        split at read <;> cases read
      · cases read

theorem exists_spelling_of_parts {sign : Sign} {whole rest : List Char}
    {fraction : Option (List Char)} {numeral : Numeral}
    (all : ∀ c ∈ whole ++ fraction.getD [], isDigit c = true)
    (given : ¬ ((whole.map digitValue).isEmpty && ((fraction.getD []).map digitValue).isEmpty) = true)
    (read : (readExponent rest).map (fun exponent => Numeral.mk sign.isMinus
      (whole.map digitValue) ((fraction.getD []).map digitValue) exponent) = some numeral) :
    ∃ spelling : Spelling,
      sign.chars ++ (whole ++ (fraction.elim [] ('.' :: ·) ++ rest)) = spelling.chars ∧
        numeral = spelling.numeral := by
  have nonempty : whole ++ fraction.getD [] ≠ [] := by
    intro none
    obtain ⟨left, right⟩ := List.append_eq_nil_iff.mp none
    exact given (by rw [left, right]; rfl)
  obtain ⟨exponent, readRest, rfl⟩ := Option.map_eq_some_iff.mp read
  cases exponent with
  | none =>
      rw [eq_nil_of_readExponent readRest]
      exact ⟨⟨sign, whole, fraction, none, all, nonempty⟩, rfl, rfl⟩
  | some value =>
      obtain ⟨exponent, rfl, rfl⟩ := exists_exponent readRest
      exact ⟨⟨sign, whole, fraction, some exponent, all, nonempty⟩, rfl, rfl⟩

/-- Whatever is read is a spelling of the numeral that is read. -/
theorem exists_spelling {cs : List Char} {numeral : Numeral} (read : read? cs = some numeral) :
    ∃ spelling : Spelling, cs = spelling.chars ∧ numeral = spelling.numeral := by
  unfold read? at read
  dsimp only at read
  obtain ⟨sign, signed, minus⟩ := exists_sign cs
  obtain ⟨whole, left, unsigned, taken⟩ := exists_digits (takeSign cs).2
  rw [minus, taken] at read
  rw [signed, unsigned]
  generalize (takeDigits (takeSign cs).2).2 = afterWhole at read ⊢
  split at read
  · rename_i afterPoint
    obtain ⟨digits, right, shape, values⟩ := exists_digits afterPoint
    rw [values] at read
    rw [shape]
    split at read
    · cases read
    · rename_i given
      have all : ∀ c ∈ whole ++ (some digits).getD [], isDigit c = true := fun c inside =>
        (List.mem_append.mp inside).elim (left c) (right c)
      exact exists_spelling_of_parts all given read
  · split at read
    · cases read
    · rename_i given
      have all : ∀ c ∈ whole ++ (none : Option (List Char)).getD [], isDigit c = true := by
        simpa using left
      exact exists_spelling_of_parts all given read

/-! ### Blanks around a spelling -/

theorem not_isBlank_of_isDigit {c : Char} (digit : isDigit c = true) : Text.isBlank c = false := by
  unfold isDigit at digit
  unfold Text.isBlank
  simp only [Bool.and_eq_true, decide_eq_true_eq] at digit
  simp only [Bool.or_eq_false_iff, Bool.and_eq_false_iff, decide_eq_false_iff_not,
    beq_eq_false_iff_ne]
  omega

theorem Sign.not_isBlank (sign : Sign) : ∀ c ∈ sign.chars, Text.isBlank c = false := by
  intro c inside
  cases sign with
  | none => cases inside
  | plus =>
      rw [List.mem_singleton.mp inside]
      rfl
  | minus =>
      rw [List.mem_singleton.mp inside]
      rfl

theorem Exponent.not_isBlank (exponent : Exponent) :
    ∀ c ∈ exponent.chars, Text.isBlank c = false := by
  intro c inside
  unfold Exponent.chars at inside
  simp only [List.mem_cons, List.mem_append] at inside
  rcases inside with rfl | sign | digit
  · rcases exponent.marked with mark | mark
    · rw [mark]
      rfl
    · rw [mark]
      rfl
  · exact exponent.sign.not_isBlank c sign
  · exact not_isBlank_of_isDigit (exponent.all c digit)

theorem Spelling.not_isBlank (spelling : Spelling) :
    ∀ c ∈ spelling.chars, Text.isBlank c = false := by
  intro c inside
  unfold Spelling.chars at inside
  simp only [List.mem_append] at inside
  rcases inside with sign | whole | point | exponent
  · exact spelling.sign.not_isBlank c sign
  · exact not_isBlank_of_isDigit (spelling.all c (List.mem_append_left _ whole))
  · rw [Spelling.pointChars] at point
    cases fraction : spelling.fraction with
    | none =>
        rw [fraction] at point
        cases point
    | some digits =>
        rw [fraction, Option.elim_some] at point
        rcases List.mem_cons.mp point with rfl | digit
        · rfl
        · apply not_isBlank_of_isDigit (spelling.all c (List.mem_append_right _ _))
          rwa [fraction, Option.getD_some]
  · rw [Spelling.exponentChars] at exponent
    cases written : spelling.exponent with
    | none =>
        rw [written] at exponent
        cases exponent
    | some other =>
        rw [written, Option.elim_some] at exponent
        exact other.not_isBlank c exponent

/-- There is a digit in every spelling. -/
theorem Spelling.exists_digit (spelling : Spelling) : ∃ c ∈ spelling.chars, isDigit c = true := by
  obtain ⟨c, rest, shape⟩ := List.exists_cons_of_ne_nil spelling.nonempty
  have inside : c ∈ spelling.whole ++ spelling.fraction.getD [] := shape ▸ List.mem_cons_self
  refine ⟨c, ?_, spelling.all c inside⟩
  unfold Spelling.chars Spelling.pointChars
  rcases List.mem_append.mp inside with whole | fraction
  · exact List.mem_append_right _ (List.mem_append_left _ whole)
  · cases given : spelling.fraction with
    | none =>
        rw [given] at fraction
        cases fraction
    | some digits =>
        rw [given] at fraction
        exact List.mem_append_right _ (List.mem_append_right _
          (List.mem_append_left _ (List.mem_cons_of_mem _ fraction)))

/-- The text is the spelling with blanks around it. -/
def Spelling.TrimmedFrom (spelling : Spelling) (text : String) : Prop :=
  ∃ before after : List Char, (∀ c ∈ before, Text.isBlank c = true) ∧
    (∀ c ∈ after, Text.isBlank c = true) ∧ text.toList = before ++ (spelling.chars ++ after)

theorem read?_of_trimmedFrom {spelling : Spelling} {text : String}
    (written : spelling.TrimmedFrom text) :
    read? (Text.trimChars text.toList) = some spelling.numeral := by
  obtain ⟨before, after, left, right, shape⟩ := written
  rw [shape, Text.trimChars_surrounded left right spelling.not_isBlank]
  exact read?_chars spelling

theorem exists_trimmedFrom {text : String} {numeral : Numeral}
    (read : read? (Text.trimChars text.toList) = some numeral) :
    ∃ spelling : Spelling, spelling.TrimmedFrom text := by
  obtain ⟨before, after, left, right, shape⟩ := Text.exists_surrounded text.toList
  obtain ⟨spelling, chars, _⟩ := exists_spelling read
  rw [chars] at shape
  exact ⟨spelling, before, after, left, right, shape⟩

theorem Spelling.digits_lt (spelling : Spelling) :
    ∀ digit ∈ spelling.numeral.whole ++ spelling.numeral.fraction, digit < 10 := by
  intro digit inside
  unfold Spelling.numeral at inside
  dsimp only at inside
  rw [← List.map_append] at inside
  obtain ⟨c, given, rfl⟩ := List.mem_map.mp inside
  exact digitValue_lt (spelling.all c given)

end PresenceGateway.Numeral
