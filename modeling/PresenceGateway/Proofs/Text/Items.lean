import Mathlib.Data.List.TakeWhile
import PresenceGateway.Text.Blank
/-!
Items between separators, and trimming. There is always an item, and the items hold the characters of
the text but for the separators. A text is cut at its first separator, if it has one. A text is what it
is trimmed to, with blanks around it.
-/
namespace PresenceGateway.Text

theorem splitChars_ne_nil (separator : Char) (cs : List Char) : splitChars separator cs ≠ [] := by
  cases cs with
  | nil => exact List.cons_ne_nil _ _
  | cons c rest =>
      unfold splitChars
      rw [List.foldr_cons]
      split
      · exact List.cons_ne_nil _ _
      · split <;> exact List.cons_ne_nil _ _

theorem splitChars_cons (separator c : Char) (rest : List Char) :
    ∃ first later, splitChars separator rest = first :: later ∧
      splitChars separator (c :: rest) =
        if c = separator then [] :: first :: later else (c :: first) :: later := by
  obtain ⟨first, later, items⟩ := List.exists_cons_of_ne_nil (splitChars_ne_nil separator rest)
  refine ⟨first, later, items, ?_⟩
  unfold splitChars at items ⊢
  rw [List.foldr_cons, items]

/-- The items hold characters of the text, and not the separator. -/
theorem mem_of_mem_splitChars {separator c : Char} {cs item : List Char}
    (found : item ∈ splitChars separator cs) (inside : c ∈ item) : c ∈ cs ∧ c ≠ separator := by
  induction cs generalizing item with
  | nil =>
      rw [splitChars, List.foldr_nil, List.mem_singleton] at found
      rw [found] at inside
      cases inside
  | cons head rest ih =>
      obtain ⟨first, later, items, split⟩ := splitChars_cons separator head rest
      rw [split] at found
      have among (other : List Char) (listed : other ∈ first :: later) (holds : c ∈ other) :
          c ∈ head :: rest ∧ c ≠ separator :=
        (ih (items ▸ listed) holds).imp_left (List.mem_cons_of_mem _)
      split at found
      · rcases List.mem_cons.mp found with rfl | listed
        · cases inside
        · exact among item listed inside
      · rename_i other
        rcases List.mem_cons.mp found with rfl | listed
        · rcases List.mem_cons.mp inside with rfl | holds
          · exact ⟨List.mem_cons_self, other⟩
          · exact among first List.mem_cons_self holds
        · exact among item (List.mem_cons_of_mem _ listed) inside

theorem splitChars_eq_splitOn (separator : Char) (cs : List Char) :
    splitChars separator cs = cs.splitOn separator := by
  unfold List.splitOn
  induction cs with
  | nil => rfl
  | cons c rest ih =>
      obtain ⟨first, later, items, split⟩ := splitChars_cons separator c rest
      rw [split, List.splitOnP_cons_eq_if_modifyHead, ← ih, items]
      by_cases same : c = separator
      · rw [if_pos same, if_pos (beq_iff_eq.mpr same)]
      · rw [if_neg same, if_neg (by simpa using same)]
        rfl

theorem splitChars_eq_singleton {separator : Char} {cs : List Char} (absent : separator ∉ cs) :
    splitChars separator cs = [cs] := by
  rw [splitChars_eq_splitOn]
  apply List.splitOnP_eq_singleton
  intro c inside
  exact beq_false_of_ne fun same => absent (same ▸ inside)

theorem splitChars_append (separator : Char) (front rest : List Char) :
    splitChars separator (front ++ separator :: rest) =
      splitChars separator front ++ splitChars separator rest := by
  simp only [splitChars_eq_splitOn]
  exact List.splitOnP_append_cons front rest (beq_self_eq_true separator)

/-- Items that are joined are found again. -/
theorem splitChars_intercalate {separator : Char} {items : List (List Char)}
    (absent : ∀ item ∈ items, separator ∉ item) (nonempty : items ≠ []) :
    splitChars separator (List.intercalate [separator] items) = items := by
  rw [splitChars_eq_splitOn, List.splitOn_intercalate separator absent nonempty]

/-- What follows the last separator is the end of the last item. -/
theorem exists_last_item {separator : Char} {tail : List Char} (absent : separator ∉ tail)
    (cs : List Char) :
    ∃ items last, splitChars separator (cs ++ tail) = items ++ [last] ∧ tail <:+ last := by
  induction cs with
  | nil => exact ⟨[], tail, splitChars_eq_singleton absent, List.suffix_rfl⟩
  | cons c rest ih =>
      obtain ⟨items, last, whole, ends⟩ := ih
      obtain ⟨first, later, same, split⟩ := splitChars_cons separator c (rest ++ tail)
      rw [whole] at same
      rw [List.cons_append, split]
      by_cases here : c = separator
      · rw [if_pos here, ← same]
        exact ⟨[] :: items, last, rfl, ends⟩
      · rw [if_neg here]
        cases items with
        | nil =>
            cases same
            exact ⟨[], c :: last, rfl, ends.trans (List.suffix_cons c last)⟩
        | cons head others =>
            cases same
            exact ⟨(c :: first) :: others, last, rfl, ends⟩

section Cutting

variable {separator : Char} {front : List Char} (absent : separator ∉ front)

include absent

theorem ne_separator_of_mem : ∀ c ∈ front, decide (c ≠ separator) = true := by
  intro c inside
  rw [decide_eq_true_eq]
  rintro rfl
  exact absent inside

theorem cutChars_of_absent : cutChars separator front = (front, none) := by
  have each := ne_separator_of_mem absent
  have taken : front.takeWhile (· ≠ separator) = front := List.takeWhile_eq_self_iff.mpr each
  have left : front.dropWhile (· ≠ separator) = [] := List.dropWhile_eq_nil_iff.mpr each
  unfold cutChars
  rw [left, taken]

theorem cutChars_append (rest : List Char) :
    cutChars separator (front ++ separator :: rest) = (front, some rest) := by
  have each := ne_separator_of_mem absent
  have taken : (front ++ separator :: rest).takeWhile (· ≠ separator) = front := by
    rw [List.takeWhile_append_of_pos each, List.takeWhile_cons]
    simp
  have left : (front ++ separator :: rest).dropWhile (· ≠ separator) = separator :: rest := by
    rw [List.dropWhile_append_of_pos each, List.dropWhile_cons]
    simp
  unfold cutChars
  rw [left, taken]

end Cutting

/-! ### Trimming -/

/-- Blanks around a text make no difference. -/
theorem trimChars_padded {before after : List Char} (left : ∀ c ∈ before, isBlank c = true)
    (right : ∀ c ∈ after, isBlank c = true) (inner : List Char) :
    trimChars (before ++ (inner ++ after)) = trimChars inner := by
  have behind : ∀ c ∈ after.reverse, isBlank c = true :=
    fun c inside => right c (List.mem_reverse.mp inside)
  unfold trimChars
  rw [List.dropWhile_append_of_pos left, List.dropWhile_append]
  cases inner.dropWhile isBlank with
  | nil => rw [List.isEmpty_nil, if_pos rfl, List.dropWhile_eq_nil_iff.mpr right]
  | cons c rest =>
      rw [List.isEmpty_cons, if_neg Bool.false_ne_true, List.reverse_append,
        List.dropWhile_append_of_pos behind]

theorem trimChars_of_solid {cs : List Char} (solid : ∀ c ∈ cs, isBlank c = false) :
    trimChars cs = cs := by
  have drop (inner : List Char) (solid : ∀ c ∈ inner, isBlank c = false) :
      inner.dropWhile isBlank = inner := by
    cases inner with
    | nil => rfl
    | cons c rest => rw [List.dropWhile_cons_of_neg (by simp [solid c List.mem_cons_self])]
  unfold trimChars
  rw [drop cs solid, drop cs.reverse fun c inside => solid c (List.mem_reverse.mp inside),
    List.reverse_reverse]

/-- Blanks around a text without blanks are trimmed. -/
theorem trimChars_surrounded {before inner after : List Char}
    (left : ∀ c ∈ before, isBlank c = true) (right : ∀ c ∈ after, isBlank c = true)
    (solid : ∀ c ∈ inner, isBlank c = false) :
    trimChars (before ++ (inner ++ after)) = inner :=
  (trimChars_padded left right inner).trans (trimChars_of_solid solid)

/-- A text is what it is trimmed to, with blanks around it. -/
theorem exists_surrounded (cs : List Char) : ∃ before after, (∀ c ∈ before, isBlank c = true) ∧
    (∀ c ∈ after, isBlank c = true) ∧ cs = before ++ (trimChars cs ++ after) := by
  refine ⟨cs.takeWhile isBlank, ((cs.dropWhile isBlank).reverse.takeWhile isBlank).reverse,
    fun _ => List.mem_takeWhile_imp,
    fun _ inside => List.mem_takeWhile_imp (List.mem_reverse.mp inside), ?_⟩
  rw [trimChars, ← List.reverse_append, List.takeWhile_append_dropWhile, List.reverse_reverse,
    List.takeWhile_append_dropWhile]

theorem mem_of_mem_trimChars {cs : List Char} {c : Char} (inside : c ∈ trimChars cs) : c ∈ cs := by
  obtain ⟨before, after, _, _, shape⟩ := exists_surrounded cs
  rw [shape]
  exact List.mem_append_right _ (List.mem_append_left _ inside)

theorem trimChars_trimChars (cs : List Char) : trimChars (trimChars cs) = trimChars cs := by
  obtain ⟨before, after, left, right, shape⟩ := exists_surrounded cs
  rw [← trimChars_padded left right (trimChars cs), ← shape]

theorem trimChars_eq_nil_iff (cs : List Char) : trimChars cs = [] ↔ cs.all isBlank = true := by
  rw [List.all_eq_true]
  constructor
  · intro nothing
    obtain ⟨before, after, left, right, shape⟩ := exists_surrounded cs
    rw [nothing, List.nil_append] at shape
    intro c inside
    rw [shape] at inside
    exact (List.mem_append.mp inside).elim (left c) (right c)
  · intro blank
    rw [trimChars, List.dropWhile_eq_nil_iff.mpr blank]
    rfl

theorem trim_toList (text : String) : (trim text).toList = trimChars text.toList := String.toList_ofList

theorem trim_trim (text : String) : trim (trim text) = trim text := by
  rw [trim, trim_toList, trimChars_trimChars]
  rfl

theorem trim_eq_empty_iff (text : String) : trim text = "" ↔ isBlankText text = true := by
  rw [isBlankText, ← trimChars_eq_nil_iff, ← String.toList_inj, trim_toList]
  rfl

/-! ### Lists between commas -/

/-- The items between commas that are not blank. -/
def solidItems (text : String) : List String :=
  (split ',' text).filter fun item => !isBlankText item

theorem mem_solidItems_iff {text item : String} :
    item ∈ solidItems text ↔ item ∈ split ',' text ∧ isBlankText item = false := by
  rw [solidItems, List.mem_filter, Bool.not_eq_true']

theorem comma_notMem_of_mem_split {text item : String} (inside : item ∈ split ',' text) :
    ',' ∉ item.toList := by
  obtain ⟨chars, found, rfl⟩ := List.mem_map.mp inside
  rw [String.toList_ofList]
  exact fun comma => (mem_of_mem_splitChars found comma).2 rfl

theorem solidItems_of_blank {text : String} (blank : isBlankText text = true) :
    solidItems text = [] := by
  refine List.filter_eq_nil_iff.mpr fun item inside => ?_
  obtain ⟨chars, found, rfl⟩ := List.mem_map.mp inside
  rw [Bool.not_eq_true, Bool.not_eq_false', isBlankText, String.toList_ofList, List.all_eq_true]
  exact fun c among => List.all_eq_true.mp blank c (mem_of_mem_splitChars found among).1

theorem solidItems_append (front rest : String) :
    solidItems (front ++ "," ++ rest) = solidItems front ++ solidItems rest := by
  have chars : (front ++ "," ++ rest).toList = front.toList ++ ',' :: rest.toList := by
    rw [String.toList_append, String.toList_append, List.append_assoc]
    rfl
  unfold solidItems split
  rw [chars, splitChars_append, List.map_append, List.filter_append]

/-- Items without commas that are joined by commas are found again. -/
theorem split_intercalate {items : List String} (absent : ∀ item ∈ items, ',' ∉ item.toList)
    (nonempty : items ≠ []) : split ',' (",".intercalate items) = items := by
  have chars : (",".intercalate items).toList = List.intercalate [','] (items.map String.toList) :=
    String.toList_intercalate
  have apart : ∀ item ∈ items.map String.toList, ',' ∉ item := by
    intro item inside
    obtain ⟨text, found, rfl⟩ := List.mem_map.mp inside
    exact absent text found
  have same : String.ofList ∘ String.toList = id := funext fun _ => String.ofList_toList
  rw [split, chars, splitChars_intercalate apart (mt List.map_eq_nil_iff.mp nonempty), List.map_map,
    same, List.map_id]

end PresenceGateway.Text
