import PresenceGateway.Proofs.Json.ReadingBack
/-!
When a merge patch wins outright. A patch that is neither null nor an object replaces what was
there. An object only does when it names every key of the object that was there, when it has no null
in it, and when each of its values wins in turn. In all other cases a key of the old object survives,
or a null of the patch is lost.
-/
namespace PresenceGateway.Json

namespace Outline

variable {κ α : Type} [DecidableEq κ]

/-- What is left of a target and a patch once they are merged is the patch, up to the order of
members. -/
inductive Overrides : Outline κ α → Outline κ α → Prop where
  | leaf (target : Outline κ α) (value : α) : Overrides target (.leaf value)
  | object {target : Outline κ α} {patch : List (κ × Outline κ α)} :
      (∀ key ∈ keys target.membersOrNone, key ∈ keys patch) →
      (∀ member ∈ patch,
        Overrides ((member? member.1 target.membersOrNone).getD .null) member.2) →
      Overrides target (.object patch)

theorem not_overrides_null (target : Outline κ α) : ¬ Overrides target .null := by
  intro wins
  cases wins

theorem overrides_object_iff {target : Outline κ α} {patch : List (κ × Outline κ α)}
    (distinct : (keys patch).Nodup) :
    Overrides target (.object patch) ↔ ∀ key,
      (member? key patch = none → member? key target.membersOrNone = none) ∧
      ∀ change, member? key patch = some change →
        Overrides ((member? key target.membersOrNone).getD .null) change := by
  constructor
  · intro wins key
    cases wins with
    | object named inside =>
        constructor
        · intro unnamed
          refine member?_eq_none_iff.mpr fun present => ?_
          exact member?_eq_none_iff.mp unnamed (named key present)
        · intro change found
          exact inside _ (mem_of_member? found)
  · intro each
    refine .object ?_ ?_
    · intro key present
      apply Decidable.byContradiction
      intro unnamed
      have absent := (each key).1 (member?_eq_none_iff.mpr unnamed)
      exact member?_eq_none_iff.mp absent present
    · intro member inside
      exact (each member.1).2 member.2 (member?_of_mem distinct inside)

end Outline

namespace Value

theorem read_member?_merge_iff {levels : Nat} {old : Option (Outline String Value)} {change : Value}
    (merged : change ≠ .null →
      (((old.getD .null).merge change.outline).read? levels = some change ↔
        Outline.Overrides (old.getD .null) change.outline ∧ change.ReadsBack levels)) :
    (Outline.resolve old change.outline).map (Outline.read? levels) = some (some change) ↔
      Outline.Overrides (old.getD .null) change.outline ∧ change.ReadsBack levels := by
  by_cases null : change = .null
  · rw [null]
    refine iff_of_false ?_ fun wins => Outline.not_overrides_null _ wins.1
    intro impossible
    cases impossible
  · rw [← merged null]
    have resolved : Outline.resolve old change.outline =
        some ((old.getD .null).merge change.outline) := by
      cases change with
      | null => exact absurd rfl null
      | bool _ => rfl
      | number _ => rfl
      | string _ => rfl
      | array _ => rfl
      | object _ => rfl
    rw [resolved, Option.map_some, Option.some.injEq]

/-- One key of an object that was merged into a target, given what becomes of its value. -/
theorem read_member?_mergeMembers_iff {levels : Nat} {old : List (String × Outline String Value)}
    {members : Members} (distinct : (Outline.keys old).Nodup) (ascending : members.Ascending)
    {key : String}
    (merged : ∀ change, members.get? key = some change →
      ((Outline.resolve (Outline.member? key old) change.outline).map (Outline.read? levels) =
          some (some change) ↔
        Outline.Overrides ((Outline.member? key old).getD .null) change.outline ∧
          change.ReadsBack levels)) :
    (Outline.member? key (Outline.mergeMembers old (outlineMembers members))).map
        (Outline.read? levels) = (members.get? key).map some ↔
      (members.get? key = none → Outline.member? key old = none) ∧
      ∀ change, members.get? key = some change →
        Outline.Overrides ((Outline.member? key old).getD .null) change.outline ∧
          change.ReadsBack levels := by
  have named : (Outline.keys (outlineMembers members)).Nodup := by
    rw [keys_outlineMembers]
    exact ascending.nodup
  rw [Outline.member?_mergeMembers distinct named, member?_outlineMembers]
  cases found : members.get? key with
  | none => simp
  | some change => simpa using merged change found

/-- An object is what is read after it was merged into a target exactly when each of its values
overrides the old one of its key and is read back, and no other key was there. -/
theorem read_merge_object_iff {levels : Nat} {target : Outline String Value} {members : Members}
    (before : target.WellFormed IsLeaf) (ascending : members.Ascending)
    (merged : ∀ key change, members.get? key = some change →
      ((Outline.resolve (Outline.member? key target.membersOrNone) change.outline).map
          (Outline.read? levels) = some (some change) ↔
        Outline.Overrides ((Outline.member? key target.membersOrNone).getD .null) change.outline ∧
          change.ReadsBack levels)) :
    (target.merge (outline (.object members))).read? (levels + 1) = some (.object members) ↔
      target.Overrides (outline (.object members)) ∧ ReadsBack (levels + 1) (.object members) := by
  have distinct : (Outline.keys (outlineMembers members)).Nodup := by
    rw [keys_outlineMembers]
    exact ascending.nodup
  have old : (Outline.keys target.membersOrNone).Nodup := before.membersOrNone.1
  have atKey := fun key => read_member?_mergeMembers_iff old ascending (merged key)
  rw [outline, Outline.merge, Outline.read?_object_eq_some_iff
    (Outline.nodup_keys_mergeMembers old _), Outline.overrides_object_iff distinct,
    readsBack_object_iff ascending]
  constructor
  · rintro ⟨_, each⟩
    constructor
    · intro key
      obtain ⟨unnamed, named⟩ := (atKey key).mp (each key)
      rw [member?_outlineMembers]
      refine ⟨fun absent => unnamed (Option.map_eq_none_iff.mp absent), ?_⟩
      intro change outlined
      obtain ⟨value, found, rfl⟩ := Option.map_eq_some_iff.mp outlined
      exact (named value found).1
    · intro key change found
      exact (((atKey key).mp (each key)).2 change found).2
  · rintro ⟨wins, readsBack⟩
    refine ⟨ascending, fun key => (atKey key).mpr ?_⟩
    obtain ⟨unnamed, named⟩ := wins key
    rw [member?_outlineMembers] at unnamed named
    constructor
    · intro absent
      exact unnamed (Option.map_eq_none_iff.mpr absent)
    · intro change found
      exact ⟨named _ (Option.map_eq_some_iff.mpr ⟨change, found, rfl⟩), readsBack key change found⟩

end Value

/-- A patch is what is read after it was merged into a target exactly when it overrides the target
and its own writing is read back. -/
theorem read_merge_eq_some_iff {levels : Nat} {target : Outline String Value} {value : Value}
    (before : target.WellFormed Value.IsLeaf) (ordered : value.Ordered) (notNull : value ≠ .null) :
    (target.merge value.outline).read? levels = some value ↔
      target.Overrides value.outline ∧ value.ReadsBack levels := by
  induction value using Value.objectInduction generalizing levels target with
  | other value notObject =>
      have leaf : value.IsLeaf := ⟨notNull, notObject⟩
      have replaced : target.merge value.outline = value.outline := by
        rw [Value.outline_of_isLeaf leaf]
        exact Outline.merge.eq_2 _ _ (by simp)
      have wins : target.Overrides value.outline := by
        rw [Value.outline_of_isLeaf leaf]
        exact .leaf target value
      rw [replaced, Value.readsBack_iff]
      exact ⟨fun read => ⟨wins, read⟩, And.right⟩
  | object members ih =>
      cases levels with
      | zero =>
          refine iff_of_false ?_ fun both => ?_
          · intro impossible
            cases impossible
          · have impossible := both.2
            cases impossible
      | succ levels =>
          cases ordered with
          | object ascending inside =>
              refine Value.read_merge_object_iff before ascending fun key change found => ?_
              have member := Members.mem_of_get? found
              have sound := Outline.WellFormed.member before.membersOrNone.2 key
              exact Value.read_member?_merge_iff (ih _ member sound (inside _ member))

end PresenceGateway.Json
