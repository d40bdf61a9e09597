import PresenceGateway.Json.MergePatch
/-!
What a merge patch does to each key, by induction on the patch: a key that the patch does not name
keeps its value, a null takes it away, and any other change is merged into the value that was there.
A merge commutes with any renaming of keys that keeps them apart, so that it makes no difference
whether it is done on values or on their written form.
-/
namespace PresenceGateway.Json.Outline

variable {κ α : Type}

/-- Induction over outlines, with one hypothesis for all members of an object. -/
theorem induction {motive : Outline κ α → Prop} (null : motive .null)
    (leaf : ∀ value, motive (.leaf value))
    (object : ∀ members : List (κ × Outline κ α), (∀ member ∈ members, motive member.2) →
      motive (.object members)) (outline : Outline κ α) : motive outline :=
  @Outline.rec κ α motive (fun members => ∀ member ∈ members, motive member.2)
    (fun member => motive member.2) null leaf object (by simp)
    (fun _ _ first rest => List.forall_mem_cons.mpr ⟨first, rest⟩) (fun _ _ value => value) outline

def keys (members : List (κ × Outline κ α)) : List κ :=
  members.map (·.1)

@[simp] theorem keys_cons (key : κ) (value : Outline κ α) (rest : List (κ × Outline κ α)) :
    keys ((key, value) :: rest) = key :: keys rest :=
  rfl

theorem mem_keys {key : κ} {value : Outline κ α} {members : List (κ × Outline κ α)}
    (member : (key, value) ∈ members) : key ∈ keys members :=
  List.mem_map.mpr ⟨_, member, rfl⟩

/-- No object inside an outline has a key twice, and every leaf is a proper one. -/
inductive WellFormed (proper : α → Prop) : Outline κ α → Prop where
  | null : WellFormed proper .null
  | leaf {value : α} : proper value → WellFormed proper (.leaf value)
  | object {members : List (κ × Outline κ α)} : (keys members).Nodup →
      (∀ member ∈ members, WellFormed proper member.2) → WellFormed proper (.object members)

theorem WellFormed.membersOrNone {proper : α → Prop} {outline : Outline κ α}
    (wellFormed : WellFormed proper outline) :
    (keys outline.membersOrNone).Nodup ∧
      ∀ member ∈ outline.membersOrNone, WellFormed proper member.2 := by
  cases wellFormed with
  | null => exact ⟨List.nodup_nil, by simp [Outline.membersOrNone]⟩
  | leaf _ => exact ⟨List.nodup_nil, by simp [Outline.membersOrNone]⟩
  | object distinct inside => exact ⟨distinct, inside⟩

variable [DecidableEq κ]

/-! ### Looking up, taking away and putting members -/

theorem member?_eq_none_iff {key : κ} {members : List (κ × Outline κ α)} :
    member? key members = none ↔ key ∉ keys members := by
  induction members with
  | nil => simp [member?, keys]
  | cons head tail ih =>
      obtain ⟨other, value⟩ := head
      rw [member?, keys_cons, List.mem_cons, not_or]
      by_cases same : other = key
      · rw [if_pos same]
        exact iff_of_false (by simp) (fun apart => apart.1 same.symm)
      · rw [if_neg same, ih]
        exact ⟨fun absent => ⟨fun equal => same equal.symm, absent⟩, And.right⟩

theorem mem_of_member? {key : κ} {members : List (κ × Outline κ α)} {value : Outline κ α}
    (found : member? key members = some value) : (key, value) ∈ members := by
  induction members with
  | nil => cases found
  | cons head tail ih =>
      obtain ⟨other, first⟩ := head
      rw [member?] at found
      split at found
      · rename_i same
        cases found
        rw [same]
        exact List.mem_cons_self
      · exact List.mem_cons_of_mem _ (ih found)

theorem member?_of_mem {key : κ} {members : List (κ × Outline κ α)} {value : Outline κ α}
    (distinct : (keys members).Nodup) (member : (key, value) ∈ members) :
    member? key members = some value := by
  induction members with
  | nil => cases member
  | cons head tail ih =>
      obtain ⟨other, first⟩ := head
      obtain ⟨fresh, distinct⟩ := List.nodup_cons.mp distinct
      rw [member?]
      rcases List.mem_cons.mp member with same | later
      · cases same
        rw [if_pos rfl]
      · have apart : other ≠ key := by
          intro same
          exact fresh (same ▸ mem_keys later)
        rw [if_neg apart, ih distinct later]

theorem member?_putMember (key other : κ) (value : Outline κ α)
    (members : List (κ × Outline κ α)) :
    member? key (putMember other value members) =
      if key = other then some value else member? key members := by
  induction members with
  | nil => simp only [putMember, member?, eq_comm]
  | cons head tail ih =>
      obtain ⟨first, old⟩ := head
      rw [putMember]
      by_cases here : first = other
      · rw [if_pos here, member?, member?, here]
        by_cases same : key = other
        · rw [if_pos same.symm, if_pos same]
        · rw [if_neg (Ne.symm same), if_neg same, if_neg (Ne.symm same)]
      · rw [if_neg here, member?, member?, ih]
        by_cases found : first = key
        · rw [if_pos found, if_neg (fun same => here (found.trans same)), if_pos found]
        · rw [if_neg found, if_neg found]

theorem keys_removeMember (key : κ) (members : List (κ × Outline κ α)) :
    keys (removeMember key members) = (keys members).erase key := by
  induction members with
  | nil => rfl
  | cons head tail ih =>
      obtain ⟨other, value⟩ := head
      rw [removeMember, keys_cons, List.erase_cons]
      by_cases same : other = key
      · rw [if_pos same, if_pos (beq_iff_eq.mpr same)]
      · rw [if_neg same, if_neg (fun equal => same (beq_iff_eq.mp equal)), keys_cons, ih]

theorem member?_removeMember {members : List (κ × Outline κ α)} (distinct : (keys members).Nodup)
    (key other : κ) :
    member? key (removeMember other members) =
      if key = other then none else member? key members := by
  by_cases same : key = other
  · rw [if_pos same, member?_eq_none_iff, keys_removeMember, same]
    exact distinct.not_mem_erase
  · rw [if_neg same]
    clear distinct
    induction members with
    | nil => rfl
    | cons head tail ih =>
        obtain ⟨first, value⟩ := head
        rw [removeMember, member?]
        by_cases here : first = other
        · rw [if_pos here, if_neg (fun found => same (found.symm.trans here))]
        · rw [if_neg here, member?, ih]

theorem keys_putMember (key : κ) (value : Outline κ α) (members : List (κ × Outline κ α)) :
    keys (putMember key value members) =
      if key ∈ keys members then keys members else keys members ++ [key] := by
  induction members with
  | nil => simp [putMember, keys]
  | cons head tail ih =>
      obtain ⟨other, old⟩ := head
      rw [putMember]
      by_cases same : other = key
      · simp [same]
      · rw [if_neg same, keys_cons, keys_cons, ih]
        by_cases present : key ∈ keys tail
        · rw [if_pos present, if_pos (List.mem_cons_of_mem _ present)]
        · rw [if_neg present, if_neg, List.cons_append]
          exact fun either => (List.mem_cons.mp either).elim (Ne.symm same) present

/-! ### One member of a patch -/

def resolve (old : Option (Outline κ α)) : Outline κ α → Option (Outline κ α)
  | .null => none
  | patch => some (merge (old.getD .null) patch)

def applyMember (key : κ) (patch : Outline κ α) (members : List (κ × Outline κ α)) :
    List (κ × Outline κ α) :=
  match resolve (member? key members) patch with
  | none => removeMember key members
  | some value => putMember key value members

theorem mergeMembers_cons (key : κ) (patch : Outline κ α)
    (members rest : List (κ × Outline κ α)) :
    mergeMembers members ((key, patch) :: rest) =
      mergeMembers (applyMember key patch members) rest := by
  cases patch with
  | null => rw [mergeMembers]; rfl
  | leaf value =>
      rw [mergeMembers]
      · rfl
      · simp
  | object patch =>
      rw [mergeMembers]
      · rfl
      · simp

theorem member?_applyMember {members : List (κ × Outline κ α)} (distinct : (keys members).Nodup)
    (key other : κ) (patch : Outline κ α) :
    member? key (applyMember other patch members) =
      if key = other then resolve (member? other members) patch else member? key members := by
  unfold applyMember
  cases resolve (member? other members) patch with
  | none => exact member?_removeMember distinct key other
  | some value => exact member?_putMember key other value members

theorem nodup_keys_applyMember {members : List (κ × Outline κ α)}
    (distinct : (keys members).Nodup) (key : κ) (patch : Outline κ α) :
    (keys (applyMember key patch members)).Nodup := by
  unfold applyMember
  cases resolve (member? key members) patch with
  | none =>
      dsimp only
      rw [keys_removeMember]
      exact distinct.erase key
  | some value =>
      dsimp only
      rw [keys_putMember]
      split
      · exact distinct
      · rename_i fresh
        exact List.nodup_append.mpr ⟨distinct, by simp, by
          intro first member second only same
          rw [List.mem_singleton.mp only] at same
          exact fresh (same ▸ member)⟩

/-! ### Whole patches -/

theorem nodup_keys_mergeMembers {members : List (κ × Outline κ α)}
    (distinct : (keys members).Nodup) (patch : List (κ × Outline κ α)) :
    (keys (mergeMembers members patch)).Nodup := by
  induction patch generalizing members with
  | nil => exact distinct
  | cons head rest ih =>
      obtain ⟨key, change⟩ := head
      rw [mergeMembers_cons]
      exact ih (nodup_keys_applyMember distinct key change)

/-- Each key after a merge: it is as it was when the patch does not name it, and else what the patch
makes of it. -/
theorem member?_mergeMembers {members patch : List (κ × Outline κ α)}
    (distinct : (keys members).Nodup) (named : (keys patch).Nodup) (key : κ) :
    member? key (mergeMembers members patch) =
      match member? key patch with
      | none => member? key members
      | some change => resolve (member? key members) change := by
  induction patch generalizing members with
  | nil => rfl
  | cons head rest ih =>
      obtain ⟨other, change⟩ := head
      obtain ⟨fresh, named⟩ := List.nodup_cons.mp named
      rw [mergeMembers_cons, ih (nodup_keys_applyMember distinct other change) named, member?,
        member?_applyMember distinct]
      by_cases same : other = key
      · have absent : member? key rest = none := member?_eq_none_iff.mpr (same ▸ fresh)
        rw [if_pos same, if_pos same.symm, absent, same]
      · rw [if_neg same, if_neg (Ne.symm same)]

/-! ### Merging keeps outlines well-formed -/

theorem mem_putMember {key : κ} {value : Outline κ α} {members : List (κ × Outline κ α)}
    {member : κ × Outline κ α} (inside : member ∈ putMember key value members) :
    member.2 = value ∨ member ∈ members := by
  induction members with
  | nil =>
      rw [putMember, List.mem_singleton] at inside
      exact .inl (inside ▸ rfl)
  | cons head tail ih =>
      obtain ⟨other, old⟩ := head
      rw [putMember] at inside
      split at inside
      · rcases List.mem_cons.mp inside with rfl | later
        · exact .inl rfl
        · exact .inr (List.mem_cons_of_mem _ later)
      · rcases List.mem_cons.mp inside with rfl | later
        · exact .inr List.mem_cons_self
        · exact (ih later).imp id (List.mem_cons_of_mem _)

theorem mem_removeMember {key : κ} {members : List (κ × Outline κ α)} {member : κ × Outline κ α}
    (inside : member ∈ removeMember key members) : member ∈ members := by
  induction members with
  | nil => exact inside
  | cons head tail ih =>
      obtain ⟨other, old⟩ := head
      rw [removeMember] at inside
      split at inside
      · exact List.mem_cons_of_mem _ inside
      · rcases List.mem_cons.mp inside with rfl | later
        · exact List.mem_cons_self
        · exact List.mem_cons_of_mem _ (ih later)

/-- What holds of all values before, and of whatever one member of the patch makes of a value, holds
of all values after it. -/
theorem forall_mem_applyMember {property : Outline κ α → Prop} {key : κ} {patch : Outline κ α}
    {members : List (κ × Outline κ α)} (before : ∀ member ∈ members, property member.2)
    (changed : ∀ value, resolve (member? key members) patch = some value → property value) :
    ∀ member ∈ applyMember key patch members, property member.2 := by
  intro member inside
  unfold applyMember at inside
  cases resolved : resolve (member? key members) patch with
  | none =>
      rw [resolved] at inside
      exact before member (mem_removeMember inside)
  | some value =>
      rw [resolved] at inside
      rcases mem_putMember inside with same | old
      · exact same ▸ changed value resolved
      · exact before member old

/-- A property that merging keeps is kept by every member of a merged object. -/
theorem forall_mem_mergeMembers (property : Outline κ α → Prop)
    {members patch : List (κ × Outline κ α)} (nothing : property .null)
    (kept : ∀ change ∈ patch, ∀ old, property old → property (merge old change.2))
    (before : ∀ member ∈ members, property member.2) :
    ∀ member ∈ mergeMembers members patch, property member.2 := by
  induction patch generalizing members with
  | nil => exact before
  | cons head rest ih =>
      obtain ⟨key, change⟩ := head
      rw [mergeMembers_cons]
      refine ih (fun later inside => kept later (List.mem_cons_of_mem _ inside)) ?_
      refine forall_mem_applyMember before fun value resolved => ?_
      have old : property ((member? key members).getD .null) := by
        cases found : member? key members with
        | none => exact nothing
        | some value => exact before _ (mem_of_member? found)
      have merged := kept (key, change) List.mem_cons_self _ old
      cases change with
      | null => cases resolved
      | leaf _ => exact Option.some.inj resolved ▸ merged
      | object _ => exact Option.some.inj resolved ▸ merged

theorem WellFormed.member {proper : α → Prop} {members : List (κ × Outline κ α)}
    (inside : ∀ member ∈ members, WellFormed proper member.2) (key : κ) :
    WellFormed proper ((member? key members).getD .null) := by
  cases found : member? key members with
  | none => exact .null
  | some value => exact inside _ (mem_of_member? found)

theorem WellFormed.merge {proper : α → Prop} {target patch : Outline κ α}
    (before : WellFormed proper target) (change : WellFormed proper patch) :
    WellFormed proper (target.merge patch) := by
  induction patch using Outline.induction generalizing target with
  | null => exact .null
  | leaf value => exact change
  | object members ih =>
      rw [Outline.merge]
      cases change with
      | object named changes =>
          have old := before.membersOrNone
          exact .object (nodup_keys_mergeMembers old.1 members)
            (forall_mem_mergeMembers (WellFormed proper) .null
              (fun member inside target before => ih member inside before (changes member inside))
              old.2)

/-! ### Renaming keys and leaves -/

section Map

variable {κ' β : Type} {onKey : κ → κ'} {onLeaf : α → β}

mutual

def map (onKey : κ → κ') (onLeaf : α → β) : Outline κ α → Outline κ' β
  | .null => .null
  | .leaf value => .leaf (onLeaf value)
  | .object members => .object (mapMembers onKey onLeaf members)

def mapMembers (onKey : κ → κ') (onLeaf : α → β) :
    List (κ × Outline κ α) → List (κ' × Outline κ' β)
  | [] => []
  | (key, value) :: rest => (onKey key, map onKey onLeaf value) :: mapMembers onKey onLeaf rest

end

omit [DecidableEq κ] in
theorem membersOrNone_map (outline : Outline κ α) :
    (outline.map onKey onLeaf).membersOrNone = mapMembers onKey onLeaf outline.membersOrNone := by
  cases outline with
  | null => rfl
  | leaf value => rfl
  | object members => rfl

variable [DecidableEq κ']

theorem member?_mapMembers (apart : ∀ first second, onKey first = onKey second → first = second)
    (key : κ) (members : List (κ × Outline κ α)) :
    member? (onKey key) (mapMembers onKey onLeaf members) =
      (member? key members).map (map onKey onLeaf) := by
  induction members with
  | nil => rfl
  | cons head tail ih =>
      obtain ⟨other, value⟩ := head
      rw [mapMembers, member?, member?, ih]
      by_cases same : other = key
      · rw [if_pos same, if_pos (congrArg onKey same), Option.map_some]
      · rw [if_neg same, if_neg (fun equal => same (apart _ _ equal))]

theorem removeMember_map (apart : ∀ first second, onKey first = onKey second → first = second)
    (key : κ) (members : List (κ × Outline κ α)) :
    removeMember (onKey key) (mapMembers onKey onLeaf members) =
      mapMembers onKey onLeaf (removeMember key members) := by
  induction members with
  | nil => rfl
  | cons head tail ih =>
      obtain ⟨other, value⟩ := head
      rw [mapMembers, removeMember, removeMember, ih]
      by_cases same : other = key
      · rw [if_pos same, if_pos (congrArg onKey same)]
      · rw [if_neg same, if_neg (fun equal => same (apart _ _ equal)), mapMembers]

theorem putMember_map (apart : ∀ first second, onKey first = onKey second → first = second)
    (key : κ) (value : Outline κ α) (members : List (κ × Outline κ α)) :
    putMember (onKey key) (value.map onKey onLeaf) (mapMembers onKey onLeaf members) =
      mapMembers onKey onLeaf (putMember key value members) := by
  induction members with
  | nil => rfl
  | cons head tail ih =>
      obtain ⟨other, old⟩ := head
      rw [mapMembers, putMember, putMember, ih]
      by_cases same : other = key
      · rw [if_pos same, if_pos (congrArg onKey same), mapMembers]
      · rw [if_neg same, if_neg (fun equal => same (apart _ _ equal)), mapMembers]

/-- One member of a patch can be applied before or after the renaming, if its value can be merged
before or after it. -/
theorem applyMember_map (apart : ∀ first second, onKey first = onKey second → first = second)
    {change : Outline κ α}
    (merged : ∀ target : Outline κ α, (target.merge change).map onKey onLeaf =
      (target.map onKey onLeaf).merge (change.map onKey onLeaf))
    (key : κ) (members : List (κ × Outline κ α)) :
    applyMember (onKey key) (change.map onKey onLeaf) (mapMembers onKey onLeaf members) =
      mapMembers onKey onLeaf (applyMember key change members) := by
  have old : (((member? key members).map (map onKey onLeaf)).getD .null) =
      ((member? key members).getD .null).map onKey onLeaf := by
    cases member? key members <;> rfl
  have resolved : resolve ((member? key members).map (map onKey onLeaf)) (change.map onKey onLeaf) =
      (resolve (member? key members) change).map (map onKey onLeaf) := by
    cases change with
    | null => rfl
    | leaf value => exact congrArg some (by rw [old, merged])
    | object patch => exact congrArg some (by rw [old, merged])
  unfold applyMember
  rw [member?_mapMembers apart, resolved]
  cases resolve (member? key members) change with
  | none => exact removeMember_map apart key members
  | some value => exact putMember_map apart key value members

/-- A merge can be done before or after keys and leaves are renamed, if the keys stay apart. -/
theorem merge_map (apart : ∀ first second, onKey first = onKey second → first = second)
    (target patch : Outline κ α) :
    (target.merge patch).map onKey onLeaf =
      (target.map onKey onLeaf).merge (patch.map onKey onLeaf) := by
  induction patch using Outline.induction generalizing target with
  | null => rw [Outline.merge] <;> simp [map, Outline.merge]
  | leaf value => rw [Outline.merge] <;> simp [map, Outline.merge]
  | object members ih =>
      have inside (old : List (κ × Outline κ α)) :
          mapMembers onKey onLeaf (mergeMembers old members) =
            mergeMembers (mapMembers onKey onLeaf old) (mapMembers onKey onLeaf members) := by
        induction members generalizing old with
        | nil => rfl
        | cons head rest inner =>
            obtain ⟨key, change⟩ := head
            rw [mergeMembers_cons, mapMembers, mergeMembers_cons,
              inner fun member later => ih member (List.mem_cons_of_mem _ later),
              applyMember_map apart (ih (key, change) List.mem_cons_self)]
      rw [Outline.merge, map, inside, map, Outline.merge, membersOrNone_map]

end Map

end PresenceGateway.Json.Outline
