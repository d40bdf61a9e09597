import PresenceGateway.Json.Value
import PresenceGateway.Proofs.Lookup
/-!
Members as a finite map in key order: what an insertion does to each key, that it keeps the order,
and that two ascending lists of members with the same values are the same.
-/
namespace PresenceGateway.Json.Members

def Ascending (members : Members) : Prop :=
  members.Pairwise fun first second => first.1 < second.1

theorem get?_cons (key other : String) (value : Value) (rest : Members) :
    get? ((other, value) :: rest) key = if key = other then some value else get? rest key :=
  lookup_cons_ite key other value rest

theorem get?_eq_none_of_forall {members : Members} {key : String}
    (absent : ∀ member ∈ members, key ≠ member.1) : members.get? key = none := by
  induction members with
  | nil => rfl
  | cons head tail ih =>
      obtain ⟨apart, absent⟩ := List.forall_mem_cons.mp absent
      rw [get?_cons, if_neg apart, ih absent]

theorem mem_of_get? {members : Members} {key : String} {value : Value}
    (found : members.get? key = some value) : (key, value) ∈ members := by
  induction members with
  | nil => cases found
  | cons head tail ih =>
      rw [get?_cons] at found
      split at found
      · rename_i same
        cases found
        exact same ▸ List.mem_cons_self
      · exact List.mem_cons_of_mem _ (ih found)

/-! ### Insertion -/

theorem get?_insert (key other : String) (value : Value) (members : Members) :
    get? (insert other value members) key =
      if key = other then some value else members.get? key := by
  induction members with
  | nil => exact get?_cons key other value []
  | cons head tail ih =>
      obtain ⟨first, old⟩ := head
      rw [insert]
      by_cases here : other = first
      · rw [if_pos here, get?_cons, get?_cons]
        by_cases same : key = other
        · rw [if_pos same, if_pos same]
        · rw [if_neg same, if_neg same, if_neg (fun found => same (found.trans here.symm))]
      · rw [if_neg here]
        by_cases before : other < first
        · rw [if_pos before, get?_cons]
        · rw [if_neg before, get?_cons, get?_cons, ih]
          by_cases found : key = first
          · rw [if_pos found, if_neg (fun same => here (same.symm.trans found)), if_pos found]
          · rw [if_neg found, if_neg found]

theorem get?_insert_of_ne {key other : String} (different : other ≠ key) (value : Value)
    (members : Members) : (members.insert key value).get? other = members.get? other := by
  rw [get?_insert, if_neg different]

theorem get?_erase (key other : String) (members : Members) :
    (members.erase other).get? key = if key = other then none else members.get? key :=
  lookup_filter_ne key other members

theorem get?_erase_of_ne {key other : String} (different : other ≠ key) (members : Members) :
    (members.erase key).get? other = members.get? other := by
  rw [get?_erase, if_neg different]

theorem mem_insert {member : String × Value} {key : String} {value : Value} {members : Members}
    (inside : member ∈ insert key value members) : member = (key, value) ∨ member ∈ members := by
  induction members with
  | nil => exact .inl (List.mem_singleton.mp inside)
  | cons head tail ih =>
      obtain ⟨first, old⟩ := head
      rw [insert] at inside
      split at inside
      · exact (List.mem_cons.mp inside).imp id (List.mem_cons_of_mem _)
      · split at inside
        · exact List.mem_cons.mp inside
        · rcases List.mem_cons.mp inside with same | later
          · exact .inr (same ▸ List.mem_cons_self)
          · exact (ih later).imp id (List.mem_cons_of_mem _)

theorem ascending_insert {members : Members} (ascending : Ascending members) (key : String)
    (value : Value) : Ascending (insert key value members) := by
  induction members with
  | nil => exact List.pairwise_singleton _ _
  | cons head tail ih =>
      obtain ⟨first, old⟩ := head
      obtain ⟨above, rest⟩ := List.pairwise_cons.mp ascending
      rw [insert]
      split
      · rename_i same
        exact List.pairwise_cons.mpr ⟨same ▸ above, rest⟩
      · rename_i apart
        split
        · rename_i before
          refine List.pairwise_cons.mpr ⟨?_, ascending⟩
          intro member inside
          rcases List.mem_cons.mp inside with same | later
          · exact same ▸ before
          · exact String.lt_trans before (above member later)
        · rename_i notBefore
          have after : first < key := by
            apply Decidable.byContradiction
            intro notAfter
            exact apart (String.le_antisymm notAfter notBefore)
          refine List.pairwise_cons.mpr ⟨?_, ih rest⟩
          intro member inside
          rcases mem_insert inside with same | later
          · exact same ▸ after
          · exact above member later

/-! ### Members from pairs -/

theorem mem_ofList {member : String × Value} {pairs : List (String × Value)}
    (inside : member ∈ ofList pairs) : member ∈ pairs := by
  have folded (rest : List (String × Value)) (members : Members)
      (inside : member ∈ rest.foldl (fun members pair => insert pair.1 pair.2 members) members) :
      member ∈ members ∨ member ∈ rest := by
    induction rest generalizing members with
    | nil => exact .inl inside
    | cons pair rest ih =>
        rcases ih _ inside with before | later
        · rcases mem_insert before with same | old
          · exact .inr (same ▸ List.mem_cons_self)
          · exact .inl old
        · exact .inr (List.mem_cons_of_mem _ later)
  rcases folded pairs [] inside with impossible | found
  · cases impossible
  · exact found

theorem ascending_ofList (pairs : List (String × Value)) : Ascending (ofList pairs) := by
  have kept (members : Members) (ascending : Ascending members) :
      Ascending (pairs.foldl (fun members pair => insert pair.1 pair.2 members) members) := by
    induction pairs generalizing members with
    | nil => exact ascending
    | cons pair rest ih => exact ih _ (ascending_insert ascending pair.1 pair.2)
  exact kept [] List.Pairwise.nil

/-- From pairs with different keys every key gets its one value. -/
theorem get?_ofList {pairs : List (String × Value)} (distinct : (pairs.map (·.1)).Nodup)
    (key : String) : (ofList pairs).get? key = get? pairs key := by
  have folded (members : Members) :
      get? (pairs.foldl (fun members pair => insert pair.1 pair.2 members) members) key =
        (get? pairs key).or (members.get? key) := by
    induction pairs generalizing members with
    | nil => rfl
    | cons pair rest ih =>
        obtain ⟨other, value⟩ := pair
        obtain ⟨fresh, distinct⟩ := List.nodup_cons.mp distinct
        rw [List.foldl_cons, ih distinct, get?_insert, get?_cons]
        by_cases same : key = other
        · have absent : get? rest key = none := get?_eq_none_of_forall fun member inside equal =>
            fresh (List.mem_map.mpr ⟨member, inside, equal.symm.trans same⟩)
          rw [if_pos same, if_pos same, absent]
          rfl
        · rw [if_neg same, if_neg same]
  rw [ofList, folded]
  exact Option.or_none

def passing (keeps : Value → Bool) (pairs : List (String × Option Value)) : List (String × Value) :=
  pairs.filterMap fun pair => (pair.2.filter keeps).map fun value => (pair.1, value)

section Passing

variable {keeps : Value → Bool} {pairs : List (String × Option Value)}

theorem passing_cons_none {key : String} {given : Option Value} (fails : given.filter keeps = none) :
    passing keeps ((key, given) :: pairs) = passing keeps pairs := by
  simp only [passing, List.filterMap_cons, fails, Option.map_none]

theorem passing_cons_some {key : String} {given : Option Value} {value : Value}
    (passes : given.filter keeps = some value) :
    passing keeps ((key, given) :: pairs) = (key, value) :: passing keeps pairs := by
  simp only [passing, List.filterMap_cons, passes, Option.map_some]

theorem keys_passing_sublist (keeps : Value → Bool) (pairs : List (String × Option Value)) :
    ((passing keeps pairs).map (·.1)).Sublist (pairs.map (·.1)) := by
  induction pairs with
  | nil => exact .slnil
  | cons pair rest ih =>
      obtain ⟨key, given⟩ := pair
      cases passes : given.filter keeps with
      | none =>
          rw [passing_cons_none passes]
          exact ih.cons _
      | some value =>
          rw [passing_cons_some passes]
          exact ih.cons_cons _

theorem get?_passing (distinct : (pairs.map (·.1)).Nodup) (key : String) :
    get? (passing keeps pairs) key = (pairs.lookup key).join.filter keeps := by
  induction pairs with
  | nil => rfl
  | cons pair rest ih =>
      obtain ⟨other, given⟩ := pair
      obtain ⟨fresh, distinct⟩ := List.nodup_cons.mp distinct
      rw [lookup_cons_ite]
      by_cases same : key = other
      · subst same
        rw [if_pos rfl, Option.join_some]
        cases passes : given.filter keeps with
        | none =>
            rw [passing_cons_none passes]
            apply get?_eq_none_of_forall
            rintro member inside rfl
            exact fresh ((keys_passing_sublist keeps rest).subset
              (List.mem_map.mpr ⟨member, inside, rfl⟩))
        | some value => rw [passing_cons_some passes, get?_cons, if_pos rfl]
      · rw [if_neg same, ← ih distinct]
        cases passes : given.filter keeps with
        | none => rw [passing_cons_none passes]
        | some value => rw [passing_cons_some passes, get?_cons, if_neg same]

theorem get?_ofList_passing (distinct : (pairs.map (·.1)).Nodup) (key : String) :
    (ofList (passing keeps pairs)).get? key = (pairs.lookup key).join.filter keeps := by
  rw [get?_ofList (distinct.sublist (keys_passing_sublist keeps pairs)), get?_passing distinct]

end Passing

/-! ### Members are known by their values -/

theorem Ascending.head_lt {head : String × Value} {tail : Members}
    (ascending : Ascending (head :: tail)) : ∀ member ∈ tail, head.1 < member.1 :=
  (List.pairwise_cons.mp ascending).1

theorem Ascending.tail {head : String × Value} {tail : Members}
    (ascending : Ascending (head :: tail)) : Ascending tail :=
  (List.pairwise_cons.mp ascending).2

theorem Ascending.get?_of_mem {members : Members} (ascending : Ascending members)
    {member : String × Value} (inside : member ∈ members) :
    members.get? member.1 = some member.2 := by
  induction members with
  | nil => cases inside
  | cons head tail ih =>
      obtain ⟨key, value⟩ := head
      rw [get?_cons]
      rcases List.mem_cons.mp inside with same | later
      · rw [same, if_pos rfl]
      · have above : key < member.1 := ascending.head_lt member later
        rw [if_neg (String.ne_of_lt above).symm, ih ascending.tail later]

theorem get?_eq_none_of_lt {members : Members} {key : String}
    (above : ∀ member ∈ members, key < member.1) : members.get? key = none :=
  get?_eq_none_of_forall fun member inside same =>
    String.lt_irrefl _ (same ▸ above member inside)

theorem Ascending.not_lt_head {key other : String} {old : Value} {tail : Members}
    (ascending : Ascending ((other, old) :: tail))
    (found : get? ((other, old) :: tail) key ≠ none) : ¬ key < other := by
  intro before
  refine found (get?_eq_none_of_lt fun member inside => ?_)
  rcases List.mem_cons.mp inside with same | later
  · exact same ▸ before
  · exact String.lt_trans before (ascending.head_lt member later)

/-- Of ascending members those whose value passes have what they had. -/
theorem Ascending.get?_filter {members : Members} (ascending : Ascending members)
    (keeps : Value → Bool) (key : String) :
    get? (members.filter fun member => keeps member.2) key = (members.get? key).filter keeps := by
  induction members with
  | nil => rfl
  | cons head tail ih =>
      obtain ⟨other, value⟩ := head
      have later := ih ascending.tail
      rw [get?_cons, List.filter_cons]
      by_cases kept : keeps value = true
      · rw [if_pos kept, get?_cons]
        by_cases same : key = other
        · rw [if_pos same, if_pos same, Option.filter_some, if_pos kept]
        · rw [if_neg same, if_neg same, later]
      · rw [if_neg kept, later]
        by_cases same : key = other
        · have absent : get? tail key = none :=
            get?_eq_none_of_lt fun member inside => same ▸ ascending.head_lt member inside
          rw [if_pos same, absent, Option.filter_some, if_neg kept]
          rfl
        · rw [if_neg same]

/-- Two ascending lists of members with the same value for each key are the same. -/
theorem Ascending.ext {first second : Members} (left : Ascending first) (right : Ascending second)
    (same : ∀ key, first.get? key = second.get? key) : first = second := by
  induction first generalizing second with
  | nil =>
      cases second with
      | nil => rfl
      | cons head tail =>
          have found := same head.1
          rw [get?_cons, if_pos rfl] at found
          cases found
  | cons head tail ih =>
      obtain ⟨key, value⟩ := head
      cases second with
      | nil =>
          have found := same key
          rw [get?_cons, if_pos rfl] at found
          cases found
      | cons other rest =>
          obtain ⟨otherKey, otherValue⟩ := other
          have here := same key
          have there := same otherKey
          have notBefore : ¬ key < otherKey := by
            apply right.not_lt_head
            rw [← here, get?_cons, if_pos rfl]
            exact Option.some_ne_none value
          have notAfter : ¬ otherKey < key := by
            apply left.not_lt_head
            rw [there, get?_cons, if_pos rfl]
            exact Option.some_ne_none otherValue
          obtain rfl : key = otherKey := String.le_antisymm notAfter notBefore
          rw [get?_cons, get?_cons, if_pos rfl, if_pos rfl] at here
          cases here
          have rest_same : tail = rest := by
            refine ih left.tail right.tail fun later => ?_
            by_cases first : later = key
            · rw [first, get?_eq_none_of_lt left.head_lt, get?_eq_none_of_lt right.head_lt]
            · have both := same later
              rwa [get?_cons, get?_cons, if_neg first, if_neg first] at both
          rw [rest_same]

end PresenceGateway.Json.Members
