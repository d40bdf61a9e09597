/-!
Looking up keys in lists of pairs.

The first pair of a key decides. Without the pairs of one key all other keys have what they had.
-/
namespace PresenceGateway

variable {β : Type}

theorem lookup_cons_ite (key other : String) (value : β) (rest : List (String × β)) :
    ((other, value) :: rest).lookup key = if key = other then some value else rest.lookup key := by
  rw [List.lookup_cons]
  by_cases same : key = other
  · rw [if_pos same, same, beq_self_eq_true]
  · rw [if_neg same, beq_false_of_ne same]

/-- Where every key stands once, each pair is found. -/
theorem lookup_of_mem {pairs : List (String × β)} (distinct : (pairs.map (·.1)).Nodup) {key : String}
    {value : β} (inside : (key, value) ∈ pairs) : pairs.lookup key = some value := by
  induction pairs with
  | nil => cases inside
  | cons head tail ih =>
      obtain ⟨other, first⟩ := head
      obtain ⟨fresh, distinct⟩ := List.nodup_cons.mp distinct
      rw [lookup_cons_ite]
      rcases List.mem_cons.mp inside with same | later
      · cases same
        rw [if_pos rfl]
      · rw [if_neg, ih distinct later]
        rintro rfl
        exact fresh (List.mem_map.mpr ⟨_, later, rfl⟩)

theorem lookup_filter_ne (key other : String) (pairs : List (String × β)) :
    (pairs.filter fun pair => pair.1 ≠ other).lookup key =
      if key = other then none else pairs.lookup key := by
  induction pairs with
  | nil => exact (ite_self _).symm
  | cons head tail ih =>
      obtain ⟨first, value⟩ := head
      by_cases gone : first = other
      · rw [List.filter_cons_of_neg (by simpa using gone), ih, lookup_cons_ite, gone]
        by_cases same : key = other
        · rw [if_pos same, if_pos same]
        · rw [if_neg same, if_neg same, if_neg same]
      · rw [List.filter_cons_of_pos (by simpa using gone), lookup_cons_ite, lookup_cons_ite, ih]
        by_cases same : key = first
        · rw [if_pos same, if_neg fun found => gone (same.symm.trans found), if_pos same]
        · rw [if_neg same, if_neg same]

end PresenceGateway
