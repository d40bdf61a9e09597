import PresenceGateway.Proofs.Text.Items
import PresenceGateway.Text.Composition
/-!
Characters that composing leaves alone. What is not taken apart and never joined to another character
is still there in the composed text. The rows of joined characters are searched for a colon once.
-/
namespace PresenceGateway.Text

/-- A character that is not taken apart and never joined, neither as a letter nor as a mark. -/
structure Inert (c : Char) : Prop where
  whole : split? c = none
  noLetter : ∀ mark, join? c mark = none
  noMark : ∀ letter, join? letter c = none

theorem mem_settleMark {c other : Char} {done : List Char} :
    c ∈ settleMark other done ↔ c = other ∨ c ∈ done := by
  induction done with
  | nil => simp [settleMark]
  | cons nearest before ih =>
      rw [settleMark]
      split
      · rw [List.mem_cons, ih, List.mem_cons, or_left_comm]
      · exact List.mem_cons

theorem mem_foldl_settleMark {c : Char} (cs done : List Char) :
    c ∈ cs.foldl (fun done c => settleMark c done) done ↔ c ∈ cs ∨ c ∈ done := by
  induction cs generalizing done with
  | nil => simp
  | cons other rest ih =>
      rw [List.foldl_cons, ih, mem_settleMark, List.mem_cons, or_left_comm, or_assoc]

namespace Inert

variable {c : Char} (inert : Inert c)

include inert

theorem takeApart_eq (bound : Nat) : takeApart bound c = [c] := by
  cases bound with
  | zero => rfl
  | succ bound => rw [takeApart, inert.whole]

theorem mem_apart {cs : List Char} (inside : c ∈ cs) : c ∈ apart cs := by
  rw [apart, List.mem_reverse, mem_foldl_settleMark]
  left
  rw [List.mem_flatMap]
  exact ⟨c, inside, by rw [inert.takeApart_eq, List.mem_singleton]⟩

/-- What is done with the next character does not touch it. -/
theorem mem_add {composing : Composing} (inside : c ∈ composing.reversed) (next : Char) :
    c ∈ (composing.add next).reversed := by
  obtain ⟨done, letter, marks⟩ := composing
  unfold Composing.add
  dsimp only
  split
  · rename_i joined found
    obtain ⟨own, same, reached⟩ := Option.bind_eq_some_iff.mp found
    subst same
    have other : c ≠ own := by
      rintro rfl
      rw [inert.noLetter] at reached
      simp at reached
    simp only [Composing.reversed, Option.toList_some, List.mem_append, List.mem_singleton] at inside ⊢
    rcases inside with (mark | here) | before
    · exact .inl (.inl mark)
    · exact absurd here other
    · exact .inr before
  · split
    · exact List.mem_append_right _ inside
    · simp only [Composing.reversed, List.mem_append] at inside ⊢
      exact inside.imp_left (.imp_left (List.mem_cons_of_mem _))

theorem mem_add_self (composing : Composing) : c ∈ (composing.add c).reversed := by
  unfold Composing.add
  dsimp only
  split
  · rename_i joined found
    obtain ⟨own, _, reached⟩ := Option.bind_eq_some_iff.mp found
    rw [inert.noMark] at reached
    simp at reached
  · split
    · exact List.mem_append_left _ List.mem_cons_self
    · exact List.mem_append_left _ (List.mem_append_left _ List.mem_cons_self)

theorem mem_compose {cs : List Char} (inside : c ∈ cs) : c ∈ compose cs := by
  have run (rest : List Char) (composing : Composing)
      (held : c ∈ rest ∨ c ∈ composing.reversed) :
      c ∈ (rest.foldl Composing.add composing).reversed := by
    induction rest generalizing composing with
    | nil => exact held.resolve_left (List.not_mem_nil)
    | cons next rest ih =>
        refine ih _ ?_
        rcases held with ahead | behind
        · rcases List.mem_cons.mp ahead with rfl | later
          · exact .inr (inert.mem_add_self composing)
          · exact .inl later
        · exact .inr (inert.mem_add behind next)
  rw [compose, List.mem_reverse]
  exact run _ _ (.inl (inert.mem_apart inside))

end Inert

/-! ### The colon -/

theorem notMem_toList {text : String} {c : Char} {cs : List Char} (same : String.ofList cs = text)
    (absent : c ∉ cs) : c ∉ text.toList := by
  rwa [← same, String.toList_ofList]

set_option maxRecDepth 10000 in
theorem colon_notMem_joinedRows : ∀ row ∈ joinedRows, ':' ∉ row.2.toList := by
  unfold joinedRows
  repeat' refine List.forall_mem_cons.mpr ⟨notMem_toList rfl (by decide), ?_⟩
  exact List.forall_mem_nil _

theorem joinSyllable?_colon (n : Nat) :
    joinSyllable? ':'.toNat n = none ∧ joinSyllable? n ':'.toNat = none := by
  have code : ':'.toNat = 0x3A := rfl
  unfold joinSyllable?
  rw [code]
  constructor
  · rw [if_neg (by omega), if_neg (by omega)]
  · rw [if_neg (by omega), if_neg (by omega)]

theorem mem_toList_of_joinedPairs {row : Nat × String} {pair : Char × Char}
    (listed : pair ∈ joinedPairs row) : pair.1 ∈ row.2.toList := by
  obtain ⟨word, found, read⟩ := List.mem_filterMap.mp listed
  unfold joinedPair? at read
  split at read
  · cases read
    exact (mem_of_mem_splitChars found List.mem_cons_self).1
  · cases read

theorem inert_colon : Inert ':' where
  whole := rfl
  noLetter mark := by
    rw [join?, (joinSyllable?_colon _).1, Option.none_or, List.findSome?_eq_none_iff]
    intro row listed
    split
    · rw [Option.map_eq_none_iff, List.find?_eq_none]
      intro pair inside same
      have letter := mem_toList_of_joinedPairs inside
      rw [eq_of_beq same] at letter
      exact colon_notMem_joinedRows row listed letter
    · rfl
  noMark letter := by
    have noRow : ∀ row ∈ joinedRows, row.1 ≠ ':'.toNat := by decide
    rw [join?, (joinSyllable?_colon _).2, Option.none_or, List.findSome?_eq_none_iff]
    intro row listed
    rw [if_neg (noRow row listed)]

end PresenceGateway.Text
