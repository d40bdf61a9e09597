import PresenceGateway.Proofs.Json.Doubles
import PresenceGateway.Proofs.Json.ReadingBack
import PresenceGateway.Proofs.Json.Writing
/-!
How deep values nest. A value that was read nests no deeper than it was allowed to, its parts nest less
deep, and a value can be written and read again exactly when it nests no deeper than a reader follows.
-/
namespace PresenceGateway.Json

namespace Value

/-- A value in which at most so many arrays and objects are open at a time, and in which all keys
ascend. -/
inductive Within : Nat → Value → Prop where
  | null (levels : Nat) : Within levels .null
  | bool (levels : Nat) (value : Bool) : Within levels (.bool value)
  | number (levels : Nat) (value : Number) : Within levels (.number value)
  | string (levels : Nat) (value : String) : Within levels (.string value)
  | array {levels : Nat} {items : List Value} :
      (∀ item ∈ items, Within levels item) → Within (levels + 1) (.array items)
  | object {levels : Nat} {members : Members} : members.Ascending →
      (∀ member ∈ members, Within levels member.2) → Within (levels + 1) (.object members)

theorem Within.mono {few many : Nat} {value : Value} (within : value.Within few)
    (less : few ≤ many) : value.Within many := by
  induction within generalizing many with
  | null => exact .null many
  | bool _ value => exact .bool many value
  | number _ value => exact .number many value
  | string _ value => exact .string many value
  | array _ ih =>
      obtain ⟨more, rfl⟩ := Nat.exists_eq_add_of_le' less
      rw [← Nat.add_assoc]
      exact .array fun item inside => ih item inside (Nat.le_add_left _ _)
  | object ascending _ ih =>
      obtain ⟨more, rfl⟩ := Nat.exists_eq_add_of_le' less
      rw [← Nat.add_assoc]
      exact .object ascending fun member inside => ih member inside (Nat.le_add_left _ _)

theorem Within.ordered {levels : Nat} {value : Value} (within : value.Within levels) :
    value.Ordered := by
  induction within with
  | null => exact .null
  | bool _ value => exact .bool value
  | number _ value => exact .number value
  | string _ value => exact .string value
  | array _ ih => exact .array ih
  | object ascending _ ih => exact .object ascending ih

/-- What stands inside an array or an object nests one level less. -/
theorem Within.item {levels : Nat} {items : List Value}
    (within : (Value.array items).Within (levels + 1)) {item : Value} (inside : item ∈ items) :
    item.Within levels := by
  cases within with
  | array each => exact each item inside

theorem Within.member {levels : Nat} {members : Members}
    (within : (Value.object members).Within (levels + 1)) {key : String} {value : Value}
    (found : members.get? key = some value) : value.Within levels := by
  cases within with
  | object _ each => exact each _ (Members.mem_of_get? found)

mutual

/-- The most arrays and objects of a value that are open at a time. -/
def depth : Value → Nat
  | .array items => depthOfItems items + 1
  | .object members => depthOfMembers members + 1
  | _ => 0

def depthOfItems : List Value → Nat
  | [] => 0
  | item :: rest => max (depth item) (depthOfItems rest)

def depthOfMembers : List (String × Value) → Nat
  | [] => 0
  | (_, value) :: rest => max (depth value) (depthOfMembers rest)

end

theorem depthOfItems_le_iff {items : List Value} {levels : Nat} :
    depthOfItems items ≤ levels ↔ ∀ item ∈ items, item.depth ≤ levels := by
  induction items with
  | nil => simp [depthOfItems]
  | cons item rest ih => rw [depthOfItems, Nat.max_le, ih, List.forall_mem_cons]

theorem depthOfMembers_le_iff {members : Members} {levels : Nat} :
    depthOfMembers members ≤ levels ↔ ∀ member ∈ members, member.2.depth ≤ levels := by
  induction members with
  | nil => simp [depthOfMembers]
  | cons member rest ih => rw [depthOfMembers, Nat.max_le, ih, List.forall_mem_cons]

theorem Within.depth_le {levels : Nat} {value : Value} (within : value.Within levels) :
    value.depth ≤ levels := by
  induction within with
  | null => exact Nat.zero_le _
  | bool => exact Nat.zero_le _
  | number => exact Nat.zero_le _
  | string => exact Nat.zero_le _
  | array _ ih => exact Nat.succ_le_succ (depthOfItems_le_iff.mpr ih)
  | object _ _ ih => exact Nat.succ_le_succ (depthOfMembers_le_iff.mpr ih)

/-- Whether a value is within some levels is a matter of its depth, as far as its keys ascend. -/
theorem Ordered.within {value : Value} (ordered : value.Ordered) {levels : Nat}
    (shallow : value.depth ≤ levels) : value.Within levels := by
  induction ordered generalizing levels with
  | null => exact .null levels
  | bool value => exact .bool levels value
  | number value => exact .number levels value
  | string value => exact .string levels value
  | array _ ih =>
      obtain ⟨fewer, rfl⟩ := Nat.exists_eq_add_of_le' (Nat.le_of_add_left_le shallow)
      have each := depthOfItems_le_iff.mp (Nat.le_of_succ_le_succ shallow)
      exact .array fun item inside => ih item inside (each item inside)
  | object ascending _ ih =>
      obtain ⟨fewer, rfl⟩ := Nat.exists_eq_add_of_le' (Nat.le_of_add_left_le shallow)
      have each := depthOfMembers_le_iff.mp (Nat.le_of_succ_le_succ shallow)
      exact .object ascending fun member inside => ih member inside (each member inside)

end Value

/-! ### Reading -/

namespace Tree

mutual

theorem within_of_toValue? {levels : Nat} : ∀ {tree : Tree} {value : Value},
    toValue? levels tree = some value → value.Within levels
  | .null, _, read => by
      rw [toValue?] at read
      cases read
      exact .null levels
  | .bool flag, _, read => by
      rw [toValue?] at read
      cases read
      exact .bool levels flag
  | .number numeral, _, read => by
      rw [toValue?] at read
      obtain ⟨number, _, rfl⟩ := Option.map_eq_some_iff.mp read
      exact .number levels number
  | .string units, _, read => by
      rw [toValue?] at read
      obtain ⟨text, _, rfl⟩ := Option.map_eq_some_iff.mp read
      exact .string levels text
  | .array items, _, read => by
      cases levels with
      | zero =>
          rw [toValue?] at read
          cases read
      | succ levels =>
          rw [toValue?] at read
          obtain ⟨values, all, rfl⟩ := Option.map_eq_some_iff.mp read
          exact .array (within_of_toValues? all)
  | .object members, _, read => by
      cases levels with
      | zero =>
          rw [toValue?] at read
          cases read
      | succ levels =>
          rw [toValue?] at read
          obtain ⟨pairs, all, rfl⟩ := Option.map_eq_some_iff.mp read
          refine .object (Members.ascending_ofList pairs) ?_
          intro member inside
          exact within_of_toMembers? all member (Members.mem_ofList inside)

theorem within_of_toValues? {levels : Nat} : ∀ {items : List Tree} {values : List Value},
    toValues? levels items = some values → ∀ value ∈ values, value.Within levels
  | [], _, read => by
      cases read
      simp
  | item :: rest, _, read => by
      rw [toValues?] at read
      cases first : toValue? levels item with
      | none =>
          rw [first] at read
          cases read
      | some value =>
          cases others : toValues? levels rest with
          | none =>
              rw [first, others] at read
              cases read
          | some values =>
              rw [first, others] at read
              cases read
              exact List.forall_mem_cons.mpr
                ⟨within_of_toValue? first, within_of_toValues? others⟩

theorem within_of_toMembers? {levels : Nat} :
    ∀ {members : List (StringUnits × Tree)} {pairs : List (String × Value)},
      toMembers? levels members = some pairs → ∀ pair ∈ pairs, pair.2.Within levels
  | [], _, read => by
      cases read
      simp
  | (key, tree) :: rest, _, read => by
      rw [toMembers?] at read
      cases text : key.text? with
      | none =>
          rw [text] at read
          cases read
      | some name =>
          cases first : toValue? levels tree with
          | none =>
              rw [text, first] at read
              cases read
          | some value =>
              cases others : toMembers? levels rest with
              | none =>
                  rw [text, first, others] at read
                  cases read
              | some pairs =>
                  rw [text, first, others] at read
                  cases read
                  exact List.forall_mem_cons.mpr
                    ⟨within_of_toValue? first, within_of_toMembers? others⟩

end

end Tree

theorem Value.within_of_read? {bytes : List UInt8} {value : Value}
    (read : Value.read? bytes = some value) : value.Within maxDepth := by
  obtain ⟨tree, _, shaped⟩ := Option.bind_eq_some_iff.mp read
  exact Tree.within_of_toValue? shaped

/-! ### Writing and reading again -/

theorem Tree.toValues?_ofValues_isSome {levels : Nat} {items : List Value}
    (each : ∀ item ∈ items, (toValue? levels (ofValue item)).isSome) :
    (toValues? levels (ofValues items)).isSome := by
  induction items with
  | nil => rfl
  | cons item rest ih =>
      obtain ⟨first, others⟩ := List.forall_mem_cons.mp each
      obtain ⟨value, here⟩ := Option.isSome_iff_exists.mp first
      obtain ⟨values, there⟩ := Option.isSome_iff_exists.mp (ih others)
      rw [ofValues, toValues?, here, there]
      rfl

/-- What nests so deep can be read from its writing. -/
theorem Value.Within.read?_isSome {levels : Nat} {value : Value} (within : value.Within levels) :
    (value.outline.read? levels).isSome := by
  induction within with
  | null => rfl
  | bool _ _ => rfl
  | number _ value =>
      have numeral : (Number.ofNumeral? value.numeral).isSome := by
        cases value with
        | integer value fits =>
            rw [Number.ofNumeral?_integer]
            rfl
        | double value => exact Number.ofNumeral?_double value
      rw [Outline.read?, Tree.ofOutline_written, Tree.ofValue, Tree.toValue?, Option.isSome_map]
      exact numeral
  | string _ text =>
      rw [Outline.read?, Tree.ofOutline_written, Tree.ofValue, Tree.toValue?,
        StringUnits.text?_ofText]
      rfl
  | @array levels items _ ih =>
      rw [Outline.read?, Tree.ofOutline_written, Tree.ofValue, Tree.toValue?, Option.isSome_map]
      apply Tree.toValues?_ofValues_isSome
      intro item inside
      have readable := ih item inside
      rwa [Outline.read?, Tree.ofOutline_written] at readable
  | @object levels members _ _ ih =>
      rw [Value.outline, Outline.read?_object_isSome_iff]
      intro member inside
      obtain ⟨value, found, outlined⟩ := mem_outlineMembers inside
      rw [outlined]
      exact ih _ found

namespace Tree

mutual

theorem depth_le_of_toValue? {levels : Nat} : ∀ {value : Value},
    (toValue? levels (ofValue value)).isSome → value.depth ≤ levels
  | .null, _ => Nat.zero_le _
  | .bool _, _ => Nat.zero_le _
  | .number _, _ => Nat.zero_le _
  | .string _, _ => Nat.zero_le _
  | .array items, readable => by
      cases levels with
      | zero =>
          rw [ofValue, toValue?] at readable
          cases readable
      | succ levels =>
          rw [ofValue, toValue?, Option.isSome_map] at readable
          exact Nat.succ_le_succ (depthOfItems_le_of_toValues? readable)
  | .object members, readable => by
      cases levels with
      | zero =>
          rw [ofValue, toValue?] at readable
          cases readable
      | succ levels =>
          rw [ofValue, toValue?, Option.isSome_map] at readable
          exact Nat.succ_le_succ (depthOfMembers_le_of_toMembers? readable)

theorem depthOfItems_le_of_toValues? {levels : Nat} : ∀ {items : List Value},
    (toValues? levels (ofValues items)).isSome → Value.depthOfItems items ≤ levels
  | [], _ => Nat.zero_le _
  | item :: rest, readable => by
      rw [ofValues, toValues?] at readable
      cases first : toValue? levels (ofValue item) with
      | none =>
          rw [first] at readable
          cases readable
      | some value =>
          cases others : toValues? levels (ofValues rest) with
          | none =>
              rw [first, others] at readable
              cases readable
          | some values =>
              apply Nat.max_le.mpr
              exact ⟨depth_le_of_toValue? (Option.isSome_of_eq_some first),
                depthOfItems_le_of_toValues? (Option.isSome_of_eq_some others)⟩

theorem depthOfMembers_le_of_toMembers? {levels : Nat} : ∀ {members : List (String × Value)},
    (toMembers? levels (ofMembers members)).isSome → Value.depthOfMembers members ≤ levels
  | [], _ => Nat.zero_le _
  | (key, value) :: rest, readable => by
      rw [ofMembers, toMembers?] at readable
      cases first : toValue? levels (ofValue value) with
      | none =>
          rw [StringUnits.text?_ofText, first] at readable
          cases readable
      | some found =>
          cases others : toMembers? levels (ofMembers rest) with
          | none =>
              rw [StringUnits.text?_ofText, first, others] at readable
              cases readable
          | some pairs =>
              apply Nat.max_le.mpr
              exact ⟨depth_le_of_toValue? (Option.isSome_of_eq_some first),
                depthOfMembers_le_of_toMembers? (Option.isSome_of_eq_some others)⟩

end

end Tree

theorem Value.Ordered.read?_isSome_iff {value : Value} (ordered : value.Ordered) (levels : Nat) :
    (value.outline.read? levels).isSome ↔ value.depth ≤ levels := by
  constructor
  · intro readable
    rw [Outline.read?, Tree.ofOutline_written] at readable
    exact Tree.depth_le_of_toValue? readable
  · intro shallow
    exact (ordered.within shallow).read?_isSome

end PresenceGateway.Json
