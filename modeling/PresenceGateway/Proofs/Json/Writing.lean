import PresenceGateway.Proofs.Json.Members
import PresenceGateway.Proofs.Json.MergePatch
import PresenceGateway.Proofs.Json.Strings
/-!
Values in stored documents. The outline of a written value is the outline of the value with its keys
and leaves written, and this stays so when written values are merged, because different keys are
written differently. What is read from a document is therefore settled by an outline of values: key
by key, and whatever the order of the members.
-/
namespace PresenceGateway.Json

/-! ### Outlines of values -/

/-- Induction over values that only goes into objects. -/
theorem Value.objectInduction {motive : Value → Prop}
    (other : ∀ value, (∀ members, value ≠ .object members) → motive value)
    (object : ∀ members : Members, (∀ member ∈ members, motive member.2) →
      motive (.object members)) (value : Value) : motive value :=
  @Value.rec motive (fun _ => True) (fun members => ∀ member ∈ members, motive member.2)
    (fun member => motive member.2)
    (other _ (by simp)) (fun _ => other _ (by simp)) (fun _ => other _ (by simp))
    (fun _ => other _ (by simp)) (fun _ _ => other _ (by simp)) object True.intro
    (fun _ _ _ _ => True.intro) (by simp)
    (fun _ _ first rest => List.forall_mem_cons.mpr ⟨first, rest⟩) (fun _ _ value => value) value

/-- A value that a merge treats as one piece: neither null nor an object. -/
def Value.IsLeaf (value : Value) : Prop :=
  value ≠ .null ∧ ∀ members, value ≠ .object members

mutual

def Value.outline : Value → Outline String Value
  | .null => .null
  | .object members => .object (outlineMembers members)
  | value => .leaf value

def outlineMembers : Members → List (String × Outline String Value)
  | [] => []
  | (key, value) :: rest => (key, value.outline) :: outlineMembers rest

end

theorem Value.outline_of_isLeaf {value : Value} (leaf : value.IsLeaf) :
    value.outline = .leaf value := by
  cases value with
  | null => exact absurd rfl leaf.1
  | object members => exact absurd rfl (leaf.2 members)
  | bool _ => rfl
  | number _ => rfl
  | string _ => rfl
  | array _ => rfl

theorem keys_outlineMembers (members : Members) :
    Outline.keys (outlineMembers members) = members.map (·.1) := by
  induction members with
  | nil => rfl
  | cons head tail ih => rw [outlineMembers, Outline.keys_cons, List.map_cons, ih]

theorem member?_outlineMembers (key : String) (members : Members) :
    Outline.member? key (outlineMembers members) = (members.get? key).map Value.outline := by
  induction members with
  | nil => rfl
  | cons head tail ih =>
      obtain ⟨other, value⟩ := head
      rw [outlineMembers, Outline.member?, Members.get?_cons, ih]
      by_cases same : other = key
      · rw [if_pos same, if_pos same.symm, Option.map_some]
      · rw [if_neg same, if_neg (Ne.symm same)]

theorem mem_outlineMembers {member : String × Outline String Value} {members : Members}
    (inside : member ∈ outlineMembers members) :
    ∃ value, (member.1, value) ∈ members ∧ member.2 = value.outline := by
  induction members with
  | nil => cases inside
  | cons head tail ih =>
      rw [outlineMembers] at inside
      rcases List.mem_cons.mp inside with same | later
      · exact ⟨head.2, same ▸ List.mem_cons_self, same ▸ rfl⟩
      · obtain ⟨value, found, outlined⟩ := ih later
        exact ⟨value, List.mem_cons_of_mem _ found, outlined⟩

theorem Members.Ascending.nodup {members : Members} (ascending : members.Ascending) :
    (members.map (·.1)).Nodup := by
  rw [List.nodup_iff_pairwise_ne, List.pairwise_map]
  exact ascending.imp String.ne_of_lt

/-- The outline of a value whose keys ascend is well-formed. -/
theorem Value.Ordered.outline {value : Value} (ordered : value.Ordered) :
    Outline.WellFormed IsLeaf value.outline := by
  induction ordered with
  | null => exact .null
  | bool value => exact .leaf ⟨by simp, by simp⟩
  | number value => exact .leaf ⟨by simp, by simp⟩
  | string value => exact .leaf ⟨by simp, by simp⟩
  | array _ _ => exact .leaf ⟨by simp, by simp⟩
  | object ascending _ ih =>
      refine .object ?_ ?_
      · rw [keys_outlineMembers]
        exact Members.Ascending.nodup ascending
      · intro member inside
        obtain ⟨value, found, outlined⟩ := mem_outlineMembers inside
        exact outlined ▸ ih _ found

/-! ### Outlines of trees -/

def Outline.written (outline : Outline String Value) : Outline StringUnits Tree :=
  outline.map StringUnits.ofText Tree.ofValue

/-- A written value has the written outline of the value. -/
theorem Tree.outline_ofValue (value : Value) :
    (Tree.ofValue value).outline = value.outline.written := by
  induction value using Value.objectInduction with
  | other value notObject =>
      cases value with
      | object members => exact absurd rfl (notObject members)
      | null => rfl
      | bool _ => rfl
      | number _ => rfl
      | string _ => rfl
      | array _ => rfl
  | object members ih =>
      have inside : Tree.outlineMembers (Tree.ofMembers members) =
          Outline.mapMembers StringUnits.ofText Tree.ofValue (Json.outlineMembers members) := by
        induction members with
        | nil => rfl
        | cons head tail inner =>
            obtain ⟨first, rest⟩ := List.forall_mem_cons.mp ih
            rw [Tree.ofMembers, Tree.outlineMembers, Json.outlineMembers, Outline.mapMembers, first,
              inner rest]
            rfl
      rw [Tree.ofValue, Tree.outline, inside]
      rfl

theorem Tree.outline_ofValue_leaf {value : Value} (leaf : value.IsLeaf) :
    (Tree.ofValue value).outline = .leaf (Tree.ofValue value) := by
  rw [outline_ofValue, Value.outline_of_isLeaf leaf]
  rfl

theorem Tree.outline_ofOutline {outline : Outline String Value}
    (wellFormed : outline.WellFormed Value.IsLeaf) :
    (Tree.ofOutline outline.written).outline = outline.written := by
  induction outline using Outline.induction with
  | null => rfl
  | leaf value =>
      cases wellFormed with
      | leaf leaf => exact Tree.outline_ofValue_leaf leaf
  | object members ih =>
      cases wellFormed with
      | object distinct wellFormed =>
          clear distinct
          have inside : Tree.outlineMembers (Tree.membersOfOutlines
              (Outline.mapMembers StringUnits.ofText Tree.ofValue members)) =
              Outline.mapMembers StringUnits.ofText Tree.ofValue members := by
            induction members with
            | nil => rfl
            | cons head tail inner =>
                obtain ⟨first, rest⟩ := List.forall_mem_cons.mp ih
                obtain ⟨sound, others⟩ := List.forall_mem_cons.mp wellFormed
                rw [Outline.mapMembers, Tree.membersOfOutlines, Tree.outlineMembers,
                  inner rest others]
                exact congrArg (fun value => (_, value) :: _) (first sound)
          exact congrArg Outline.object inside

/-- The tree of the outline of a written value is that value as it is written. -/
theorem Tree.ofOutline_written (value : Value) :
    Tree.ofOutline value.outline.written = Tree.ofValue value := by
  induction value using Value.objectInduction with
  | other value notObject =>
      cases value with
      | object members => exact absurd rfl (notObject members)
      | null => rfl
      | bool _ => rfl
      | number _ => rfl
      | string _ => rfl
      | array _ => rfl
  | object members ih =>
      have inside : Tree.membersOfOutlines (Outline.mapMembers StringUnits.ofText Tree.ofValue
          (Json.outlineMembers members)) = Tree.ofMembers members := by
        induction members with
        | nil => rfl
        | cons head tail inner =>
            obtain ⟨first, rest⟩ := List.forall_mem_cons.mp ih
            rw [Json.outlineMembers, Outline.mapMembers, Tree.membersOfOutlines, Tree.ofMembers,
              inner rest]
            exact congrArg (fun value => (_, value) :: _) first
      exact congrArg Tree.object inside

/-- Trees are merged as the outlines that they were written from. -/
theorem Tree.merge_ofOutline {target patch : Outline String Value}
    (before : target.WellFormed Value.IsLeaf) (change : patch.WellFormed Value.IsLeaf) :
    (Tree.ofOutline target.written).merge (Tree.ofOutline patch.written) =
      Tree.ofOutline (target.merge patch).written := by
  have merged : (target.merge patch).written = target.written.merge patch.written :=
    Outline.merge_map (fun _ _ => StringUnits.ofText_injective) target patch
  rw [Tree.merge, outline_ofOutline before, outline_ofOutline change]
  rw [merged]

/-! ### Reading -/

/-- The value that is read from an outline when it is written, if so many arrays and objects may be
open. -/
def Outline.read? (levels : Nat) (outline : Outline String Value) : Option Value :=
  Tree.toValue? levels (Tree.ofOutline outline.written)

def readMembers? (levels : Nat) (members : List (String × Outline String Value)) :
    Option Members :=
  Tree.toMembers? levels (Tree.membersOfOutlines
    (Outline.mapMembers StringUnits.ofText Tree.ofValue members))

theorem Outline.read?_object (levels : Nat) (members : List (String × Outline String Value)) :
    (Outline.object members).read? (levels + 1) =
      (readMembers? levels members).map Value.ofPairs := by
  unfold Outline.read? Outline.written readMembers?
  rw [Outline.map, Tree.ofOutline, Tree.toValue?]

theorem readMembers?_cons (levels : Nat) (key : String) (outline : Outline String Value)
    (rest : List (String × Outline String Value)) :
    readMembers? levels ((key, outline) :: rest) =
      match outline.read? levels, readMembers? levels rest with
      | some value, some members => some ((key, value) :: members)
      | _, _ => none := by
  unfold readMembers? Outline.read? Outline.written
  rw [Outline.mapMembers, Tree.membersOfOutlines, Tree.toMembers?, StringUnits.text?_ofText]
  cases Tree.toValue? levels (Tree.ofOutline (outline.map StringUnits.ofText Tree.ofValue)) with
  | none => rfl
  | some value =>
      cases Tree.toMembers? levels (Tree.membersOfOutlines
        (Outline.mapMembers StringUnits.ofText Tree.ofValue rest)) <;> rfl

/-- What is read has the keys of the outline, and for each key what is read of its value. -/
theorem readMembers?_eq_some {levels : Nat} {members : List (String × Outline String Value)}
    {pairs : Members} (read : readMembers? levels members = some pairs) :
    pairs.map (·.1) = Outline.keys members ∧
      ∀ key, (Outline.member? key members).map (Outline.read? levels) =
        (pairs.get? key).map some := by
  induction members generalizing pairs with
  | nil =>
      cases read
      exact ⟨rfl, fun _ => rfl⟩
  | cons head tail ih =>
      obtain ⟨other, outline⟩ := head
      rw [readMembers?_cons] at read
      cases first : outline.read? levels with
      | none =>
          rw [first] at read
          cases read
      | some value =>
          cases others : readMembers? levels tail with
          | none =>
              rw [first, others] at read
              cases read
          | some rest =>
              rw [first, others] at read
              cases read
              obtain ⟨keys, values⟩ := ih others
              refine ⟨by rw [List.map_cons, Outline.keys_cons, keys], fun key => ?_⟩
              rw [Outline.member?, Members.get?_cons]
              by_cases same : other = key
              · rw [if_pos same, if_pos same.symm, Option.map_some, Option.map_some, first]
              · rw [if_neg same, if_neg (Ne.symm same), values key]

theorem readMembers?_isSome_iff {levels : Nat} {members : List (String × Outline String Value)} :
    (readMembers? levels members).isSome ↔
      ∀ member ∈ members, (member.2.read? levels).isSome := by
  induction members with
  | nil => exact iff_of_true rfl (by simp)
  | cons head tail ih =>
      obtain ⟨key, outline⟩ := head
      rw [readMembers?_cons, List.forall_mem_cons, ← ih]
      cases outline.read? levels with
      | none => simp
      | some value => cases readMembers? levels tail <;> simp

theorem Outline.read?_object_isSome_iff {levels : Nat}
    {members : List (String × Outline String Value)} :
    ((Outline.object members).read? (levels + 1)).isSome ↔
      ∀ member ∈ members, (member.2.read? levels).isSome := by
  rw [Outline.read?_object, Option.isSome_map, readMembers?_isSome_iff]

/-- What is merged from two outlines that can be read can be read. -/
theorem Outline.read?_merge_isSome {levels : Nat} {target patch : Outline String Value}
    (before : (target.read? levels).isSome) (change : (patch.read? levels).isSome) :
    ((target.merge patch).read? levels).isSome := by
  induction patch using Outline.induction generalizing levels target with
  | null => exact change
  | leaf value => exact change
  | object members ih =>
      cases levels with
      | zero => cases change
      | succ levels =>
          rw [Outline.merge, Outline.read?_object_isSome_iff]
          rw [Outline.read?_object_isSome_iff] at change
          have old : ∀ member ∈ target.membersOrNone, (member.2.read? levels).isSome := by
            cases target with
            | null => simp [Outline.membersOrNone]
            | leaf _ => simp [Outline.membersOrNone]
            | object _ => exact Outline.read?_object_isSome_iff.mp before
          have kept (member : String × Outline String Value) (inside : member ∈ members)
              (value : Outline String Value) (readable : (value.read? levels).isSome) :
              ((value.merge member.2).read? levels).isSome :=
            ih member inside readable (change member inside)
          exact Outline.forall_mem_mergeMembers (fun value => (value.read? levels).isSome)
            rfl kept old

/-- An object is read as certain members exactly when these ascend and each key has the value that
is read of it. -/
theorem Outline.read?_object_eq_some_iff {levels : Nat}
    {members : List (String × Outline String Value)} (distinct : (keys members).Nodup)
    (values : Members) :
    (Outline.object members).read? (levels + 1) = some (.object values) ↔
      values.Ascending ∧
        ∀ key, (member? key members).map (Outline.read? levels) = (values.get? key).map some := by
  rw [Outline.read?_object]
  constructor
  · intro read
    obtain ⟨pairs, readPairs, same⟩ := Option.map_eq_some_iff.mp read
    obtain ⟨sameKeys, sameValues⟩ := readMembers?_eq_some readPairs
    obtain rfl : Members.ofList pairs = values := Value.object.inj same
    refine ⟨Members.ascending_ofList pairs, fun key => ?_⟩
    rw [sameValues, Members.get?_ofList (sameKeys ▸ distinct)]
  · rintro ⟨ascending, sameValues⟩
    obtain ⟨pairs, readPairs⟩ : ∃ pairs, readMembers? levels members = some pairs := by
      rw [← Option.isSome_iff_exists, readMembers?_isSome_iff]
      intro member inside
      have found := sameValues member.1
      rw [member?_of_mem distinct inside] at found
      cases value : values.get? member.1 with
      | none =>
          rw [value] at found
          cases found
      | some value' =>
          rw [value] at found
          rw [Option.some.inj found]
          rfl
    obtain ⟨sameKeys, samePairs⟩ := readMembers?_eq_some readPairs
    have same : Members.ofList pairs = values := by
      refine (Members.ascending_ofList pairs).ext ascending fun key => ?_
      have both := (samePairs key).symm.trans (sameValues key)
      rw [Members.get?_ofList (sameKeys ▸ distinct)]
      exact (Option.map_inj_right fun _ _ => Option.some.inj).mp both
    rw [readPairs, Option.map_some, Value.ofPairs, same]

end PresenceGateway.Json
