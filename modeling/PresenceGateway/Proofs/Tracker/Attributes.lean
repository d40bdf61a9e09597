import Mathlib.Data.List.Induction
import PresenceGateway.Proofs.Json.Overriding
import PresenceGateway.Proofs.Presence.Attributes
import PresenceGateway.Proofs.Tracker.Reading
import PresenceGateway.Tracker.Recorder
/-!
The attributes that are read back after a run of sightings, key by key. The keys are those that some
sighting carried. The value of a key is the one carried last exactly when nothing was known of the
device before or that value overrides what was stored of the key, and when it is read back from its
own writing.
-/
namespace PresenceGateway.Tracker

open Json (Value Members Outline)

/-- The sighting of a normalized observation, whose reported values have their keys in order, can be
recorded after any others. -/
theorem Sighting.normal_ofUpdate {observation : Observation} {apMac : Option Value}
    (reported : ∀ key value, (key, some value) ∈ observation.reported apMac → value.Ordered)
    (policy : AttributePolicy) (seenAt : Instant) :
    (Sighting.ofUpdate (observation.toUpdate policy apMac) seenAt).Normal where
  ordered := Observation.attributes_ordered reported
  noNull := Observation.attributes_ne_null

/-! ### Keys in memory -/

def storedValue (stored : Option StoredMembers) (key : String) : Option (Outline String Value) :=
  stored.bind (Outline.member? key)

theorem member?_mergeSighting_of_absent {stored : Option StoredMembers} {sighting : Sighting}
    (sound : ∀ members, stored = some members →
      (Outline.object members).WellFormed Value.IsLeaf) (normal : sighting.Normal) {key : String}
    (absent : sighting.attributes.get? key = none) :
    Outline.member? key (mergeSighting stored sighting) = storedValue stored key := by
  have nothing : Outline.member? key (Json.outlineMembers sighting.attributes) = none := by
    rw [Json.member?_outlineMembers, absent, Option.map_none]
  cases stored with
  | none => exact nothing
  | some members =>
      have distinct : (Outline.keys members).Nodup := (sound members rfl).membersOrNone.1
      have named : (Outline.keys (Json.outlineMembers sighting.attributes)).Nodup :=
        normal.wellFormed.membersOrNone.1
      rw [mergeSighting, Outline.member?_mergeMembers distinct named, nothing]
      rfl

/-- A carried value as it is stored: as it is when the device is new, and else merged into what is
stored of its key. -/
def mergedValue (stored : Option StoredMembers) (key : String) (value : Value) :
    Outline String Value :=
  match stored with
  | none => value.outline
  | some members => ((Outline.member? key members).getD .null).merge value.outline

theorem member?_mergeSighting_of_carried {stored : Option StoredMembers} {sighting : Sighting}
    (sound : ∀ members, stored = some members →
      (Outline.object members).WellFormed Value.IsLeaf) (normal : sighting.Normal) {key : String}
    {value : Value} (carried : sighting.attributes.get? key = some value) :
    Outline.member? key (mergeSighting stored sighting) = some (mergedValue stored key value) := by
  have named : Outline.member? key (Json.outlineMembers sighting.attributes) =
      some value.outline := by
    rw [Json.member?_outlineMembers, carried, Option.map_some]
  cases stored with
  | none => exact named
  | some members =>
      have distinct : (Outline.keys members).Nodup := (sound members rfl).membersOrNone.1
      have apart : (Outline.keys (Json.outlineMembers sighting.attributes)).Nodup :=
        normal.wellFormed.membersOrNone.1
      have notNull : value ≠ .null := fun null => normal.noNull key (null ▸ carried)
      rw [mergeSighting, Outline.member?_mergeMembers distinct apart, named]
      cases value with
      | null => exact absurd rfl notNull
      | bool _ => rfl
      | number _ => rfl
      | string _ => rfl
      | array _ => rfl
      | object _ => rfl

def storedMembers (devId : String) (history : List Sighting) : Option StoredMembers :=
  (memory devId history).map (·.2)

theorem storedMembers_concat (devId : String) (history : List Sighting) (sighting : Sighting) :
    storedMembers devId (history ++ [sighting]) =
      if sighting.devId = devId then
        some (mergeSighting (storedMembers devId history) sighting)
      else storedMembers devId history := by
  rw [storedMembers, memory_concat, remember]
  split <;> rfl

theorem storedMembers_sound {history : List Sighting}
    (normal : ∀ sighting ∈ history, sighting.Normal) (devId : String) (members : StoredMembers)
    (stored : storedMembers devId history = some members) :
    (Outline.object members).WellFormed Value.IsLeaf := by
  obtain ⟨table, _, holds⟩ := record_holds normal
  obtain ⟨⟨last, _⟩, known, rfl⟩ := Option.map_eq_some_iff.mp stored
  exact (holds.sound devId last _ known).2

theorem storedMembers_eq_none_iff {devId : String} {history : List Sighting} :
    storedMembers devId history = none ↔ ∀ sighting ∈ history, sighting.devId ≠ devId := by
  induction history using List.reverseRecOn with
  | nil => simp [storedMembers, memory]
  | append_singleton earlier sighting ih =>
      rw [storedMembers_concat]
      by_cases same : sighting.devId = devId
      · rw [if_pos same]
        refine iff_of_false (by simp) fun unseen => ?_
        exact unseen sighting (List.mem_append_right _ List.mem_cons_self) same
      · rw [if_neg same, ih]
        constructor
        · intro unseen other inside
          rcases List.mem_append.mp inside with before | last
          · exact unseen other before
          · exact List.mem_singleton.mp last ▸ same
        · intro unseen other inside
          exact unseen other (List.mem_append_left _ inside)

/-- A key is stored exactly when some sighting of the device carried it. -/
theorem storedValue_isSome_iff {history : List Sighting}
    (normal : ∀ sighting ∈ history, sighting.Normal) (devId key : String) :
    (storedValue (storedMembers devId history) key).isSome ↔
      ∃ sighting ∈ history, sighting.devId = devId ∧ (sighting.attributes.get? key).isSome := by
  induction history using List.reverseRecOn with
  | nil => simp [storedMembers, memory, storedValue]
  | append_singleton earlier sighting ih =>
      have before : ∀ other ∈ earlier, other.Normal :=
        fun other inside => normal other (List.mem_append_left _ inside)
      have here : sighting.Normal := normal sighting (List.mem_append_right _ List.mem_cons_self)
      have sound := storedMembers_sound before devId
      have atEnd : (∃ other ∈ earlier ++ [sighting], other.devId = devId ∧
          (other.attributes.get? key).isSome) ↔
          (∃ other ∈ earlier, other.devId = devId ∧ (other.attributes.get? key).isSome) ∨
            (sighting.devId = devId ∧ (sighting.attributes.get? key).isSome) := by
        simp [or_and_right, exists_or]
      rw [storedMembers_concat, atEnd, ← ih before]
      by_cases same : sighting.devId = devId
      · rw [if_pos same]
        cases carried : sighting.attributes.get? key with
        | none =>
            rw [storedValue, Option.bind_some, member?_mergeSighting_of_absent sound here carried]
            simp
        | some value =>
            rw [storedValue, Option.bind_some, member?_mergeSighting_of_carried sound here carried]
            exact iff_of_true rfl (.inr ⟨same, rfl⟩)
      · rw [if_neg same]
        simp [same]

/-- What is stored of a key does not change any more once no sighting of the device carries it. -/
theorem storedValue_of_not_carried_after {before after : List Sighting}
    (normal : ∀ sighting ∈ before ++ after, sighting.Normal) {devId key : String}
    (absent : ∀ later ∈ after, later.devId = devId → later.attributes.get? key = none) :
    storedValue (storedMembers devId (before ++ after)) key =
      storedValue (storedMembers devId before) key := by
  induction after using List.reverseRecOn with
  | nil => rw [List.append_nil]
  | append_singleton earlier last ih =>
      rw [← List.append_assoc] at normal ⊢
      have until_last : ∀ sighting ∈ before ++ earlier, sighting.Normal :=
        fun sighting inside => normal sighting (List.mem_append_left _ inside)
      have kept := ih until_last fun later inside =>
        absent later (List.mem_append_left _ inside)
      rw [storedMembers_concat]
      by_cases same : last.devId = devId
      · have here := normal last (List.mem_append_right _ List.mem_cons_self)
        have missing := absent last (List.mem_append_right _ List.mem_cons_self) same
        rw [if_pos same, storedValue, Option.bind_some,
          member?_mergeSighting_of_absent (storedMembers_sound until_last devId) here missing, kept]
      · rw [if_neg same, kept]

/-! ### What a lookup answers -/

/-- The attributes of a sighting can be read back from their writing, though perhaps with other
numbers. -/
def Sighting.Readable (sighting : Sighting) : Prop :=
  ((Outline.object (Json.outlineMembers sighting.attributes)).read? Json.maxDepth).isSome

theorem storedMembers_readable {devId : String} {history : List Sighting} {members : StoredMembers}
    (readable : ∀ sighting ∈ history, sighting.devId = devId → sighting.Readable)
    (stored : storedMembers devId history = some members) :
    ((Outline.object members).read? Json.maxDepth).isSome := by
  induction history using List.reverseRecOn generalizing members with
  | nil => cases stored
  | append_singleton earlier sighting ih =>
      have before := fun other inside => readable other (List.mem_append_left [sighting] inside)
      rw [storedMembers_concat] at stored
      split at stored
      · rename_i same
        have here := readable sighting (List.mem_append_right _ List.mem_cons_self) same
        cases stored
        cases known : storedMembers devId earlier with
        | none => exact here
        | some old => exact Outline.read?_merge_isSome (ih before known) here
      · exact ih before stored

/-- The value of a carried key wins when the device was new, and else when it overrides what was
stored of the key. -/
def Wins (before : List Sighting) (devId key : String) (value : Value) : Prop :=
  ∀ members, storedMembers devId before = some members →
    Outline.Overrides ((Outline.member? key members).getD .null) value.outline

theorem memory_of_last {devId : String} {before after : List Sighting} {last : Sighting}
    (same : last.devId = devId) (others : ∀ later ∈ after, later.devId ≠ devId) :
    ∃ members, memory devId (before ++ last :: after) = some (last, members) := by
  induction after using List.reverseRecOn with
  | nil =>
      rw [memory_concat, remember, if_pos same]
      exact ⟨_, rfl⟩
  | append_singleton earlier later ih =>
      have apart := others later (List.mem_append_right _ List.mem_cons_self)
      rw [← List.cons_append, ← List.append_assoc, memory_concat, remember, if_neg apart]
      exact ih fun other inside => others other (List.mem_append_left _ inside)

theorem memory_eq_none {devId : String} {history : List Sighting}
    (unseen : ∀ sighting ∈ history, sighting.devId ≠ devId) : memory devId history = none :=
  Option.map_eq_none_iff.mp (storedMembers_eq_none_iff.mpr unseen)

theorem storedValue_of_last {before after : List Sighting} {last : Sighting}
    (normal : ∀ sighting ∈ before ++ last :: after, sighting.Normal) {devId key : String}
    {value : Value} (same : last.devId = devId) (carried : last.attributes.get? key = some value)
    (absent : ∀ later ∈ after, later.devId = devId → later.attributes.get? key = none) :
    storedValue (storedMembers devId (before ++ last :: after)) key =
      some (mergedValue (storedMembers devId before) key value) := by
  have split : before ++ last :: after = (before ++ [last]) ++ after := by
    rw [List.append_assoc, List.singleton_append]
  have here : last.Normal := normal last (List.mem_append_right _ List.mem_cons_self)
  have earlier : ∀ sighting ∈ before, sighting.Normal :=
    fun sighting inside => normal sighting (List.mem_append_left _ inside)
  rw [split, storedValue_of_not_carried_after (split ▸ normal) absent, storedMembers_concat,
    if_pos same, storedValue, Option.bind_some,
    member?_mergeSighting_of_carried (storedMembers_sound earlier devId) here carried]

/-- What is read of a merged value is the carried one exactly when it wins and is read back. -/
theorem read?_mergedValue_iff {before : List Sighting}
    (normal : ∀ sighting ∈ before, sighting.Normal) {devId key : String} {value : Value}
    (ordered : value.Ordered) (notNull : value ≠ .null) (levels : Nat) :
    (mergedValue (storedMembers devId before) key value).read? levels = some value ↔
      Wins before devId key value ∧ value.ReadsBack levels := by
  unfold Wins
  cases stored : storedMembers devId before with
  | none =>
      rw [mergedValue, ← Value.readsBack_iff]
      exact ⟨fun readsBack => ⟨by simp, readsBack⟩, And.right⟩
  | some members =>
      have sound : ∀ member ∈ members, member.2.WellFormed Value.IsLeaf :=
        (storedMembers_sound normal devId members stored).membersOrNone.2
      rw [mergedValue, Json.read_merge_eq_some_iff (Outline.WellFormed.member sound key) ordered
        notNull]
      simp only [Option.some.injEq, forall_eq']

/-! ### The answer to a lookup -/

section

variable {table : Table} {history : List Sighting} {devId : String}

theorem get_of_unseen (holds : Holds table history)
    (unseen : ∀ sighting ∈ history, sighting.devId ≠ devId) :
    table.get devId = .ok none := by
  unfold Table.get
  rw [holds.rows, memory_eq_none unseen]
  rfl

/-- A device is returned when its last sighting is legible and all of them are readable. -/
theorem get_of_legible (holds : Holds table history) {before after : List Sighting}
    {last : Sighting} (split : history = before ++ last :: after) (same : last.devId = devId)
    (others : ∀ later ∈ after, later.devId ≠ devId) (legible : last.Legible)
    (readable : ∀ sighting ∈ history, sighting.devId = devId → sighting.Readable) :
    ∃ device, table.get devId = .ok (some device) := by
  obtain ⟨members, known⟩ : ∃ members, memory devId history = some (last, members) :=
    split ▸ memory_of_last same others
  have stored : storedMembers devId history = some members := by
    rw [storedMembers, known, Option.map_some]
  obtain ⟨attributes, members_read⟩ := readable_members (storedMembers_readable readable stored)
  obtain ⟨instant, time⟩ := Option.isSome_iff_exists.mp legible.1
  obtain ⟨accuracy, measured⟩ :=
    (readAccuracy_isOk_iff last (documentOf members)).mpr legible.2
  have row_read := Row.read_eq_ok_iff.mpr ⟨last.sourceType, accuracy, attributes, instant,
    SourceType.parse?_text last.sourceType, measured, members_read, time, rfl⟩
  exact ⟨_, (get_eq_ok_some_iff holds).mpr ⟨last, members, known, row_read⟩⟩

theorem attributes_of_get (holds : Holds table history) {device : Device}
    (found : table.get devId = .ok (some device)) :
    ∀ key, (storedValue (storedMembers devId history) key).map
      (Outline.read? (Json.maxDepth - 1)) = (device.attributes.get? key).map some := by
  obtain ⟨last, members, known, read⟩ := (get_eq_ok_some_iff holds).mp found
  obtain ⟨_, _, attributes, _, _, _, stored, _, rfl⟩ := Row.read_eq_ok_iff.mp read
  have distinct : (Outline.keys members).Nodup :=
    (holds.sound devId last members known).2.membersOrNone.1
  have object := (members?_documentOf members attributes).mp stored
  have each := ((Outline.read?_object_eq_some_iff distinct attributes).mp object).2
  rw [storedMembers, known]
  exact each

end

/-- What a lookup of a device answers after a history. -/
structure Recalls (history : List Sighting) (devId : String)
    (answer : Except TableError (Option Device)) : Prop where
  /-- A device that was not seen is not there. -/
  unseen : (∀ sighting ∈ history, sighting.devId ≠ devId) → answer = .ok none
  /-- A device that was seen is returned, if the last sighting is legible and all are readable. -/
  returned : ∀ before last after, history = before ++ last :: after → last.devId = devId →
    (∀ later ∈ after, later.devId ≠ devId) → last.Legible →
    (∀ sighting ∈ history, sighting.devId = devId → sighting.Readable) →
    ∃ device, answer = .ok (some device)
  /-- The keys of the attributes are those that some sighting of the device carried. -/
  keys : ∀ device, answer = .ok (some device) → ∀ key,
    (device.attributes.get? key).isSome ↔
      ∃ sighting ∈ history, sighting.devId = devId ∧ (sighting.attributes.get? key).isSome
  /-- The value of a key is the one that was carried last exactly when that one wins and is read
  back from its writing. -/
  values : ∀ device, answer = .ok (some device) → ∀ before last after key value,
    history = before ++ last :: after → last.devId = devId →
    last.attributes.get? key = some value →
    (∀ later ∈ after, later.devId = devId → later.attributes.get? key = none) →
    (device.attributes.get? key = some value ↔
      Wins before devId key value ∧ value.ReadsBack (Json.maxDepth - 1))

/-- A text that was carried last is always recalled. -/
theorem Recalls.text {history before after : List Sighting} {last : Sighting} {devId key : String}
    {answer : Except TableError (Option Device)} (recalls : Recalls history devId answer)
    {device : Device} (found : answer = .ok (some device))
    (split : history = before ++ last :: after) (same : last.devId = devId) {text : String}
    (carried : last.attributes.get? key = some (.string text))
    (absent : ∀ later ∈ after, later.devId = devId → later.attributes.get? key = none) :
    device.attributes.get? key = some (.string text) := by
  refine (recalls.values device found before last after key _ split same carried absent).mpr ?_
  constructor
  · intro members _
    exact .leaf _ _
  · exact Value.readsBack_string _ text

theorem Holds.recalls {table : Table} {history : List Sighting} (holds : Holds table history)
    (normal : ∀ sighting ∈ history, sighting.Normal) (devId : String) :
    Recalls history devId (table.get devId) where
  unseen := get_of_unseen holds
  returned := fun _ _ _ => get_of_legible holds
  keys := by
    intro device found key
    rw [← storedValue_isSome_iff normal devId key]
    have read := congrArg Option.isSome (attributes_of_get holds found key)
    rwa [Option.isSome_map, Option.isSome_map, eq_comm, Bool.eq_iff_iff] at read
  values := by
    rintro device found before last after key value rfl same carried absent
    have here : last.Normal := normal last (List.mem_append_right _ List.mem_cons_self)
    have earlier : ∀ sighting ∈ before, sighting.Normal :=
      fun sighting inside => normal sighting (List.mem_append_left _ inside)
    have read := attributes_of_get holds found key
    rw [storedValue_of_last normal same carried absent, Option.map_some] at read
    have notNull : value ≠ .null := fun null => here.noNull key (null ▸ carried)
    have ordered : value.Ordered := by
      cases here.ordered with
      | object _ inside => exact inside _ (Members.mem_of_get? carried)
    rw [← read?_mergedValue_iff earlier ordered notNull]
    cases got : device.attributes.get? key with
    | none =>
        rw [got] at read
        cases read
    | some other =>
        rw [got, Option.map_some, Option.some.injEq] at read
        rw [read]

/-! ### Sightings of one device -/

def sightingWith (attributes : Members) : Sighting :=
  { devId := "d", mac := "d", hostName := "d", sourceType := .router, gps := none
    gpsAccuracy := none, attributes, seenAt := .ofMicroseconds 1000000 }

theorem legible_sightingWith (attributes : Members) : (sightingWith attributes).Legible := by
  have readable : (Instant.parse? (Instant.ofMicroseconds 1000000).text).isSome := by
    decide +kernel
  refine ⟨readable, fun located => ?_⟩
  cases located

theorem normal_sightingWith {attributes : Members} (ordered : Value.Ordered (.object attributes))
    (noNull : ∀ member ∈ attributes, member.2 ≠ .null) : (sightingWith attributes).Normal := by
  refine ⟨ordered, fun key null => ?_⟩
  exact noNull _ (Members.mem_of_get? null) rfl

theorem readable_sightingWith {attributes : Members} (ordered : Value.Ordered (.object attributes))
    (readsBack : ∀ member ∈ attributes, member.2.ReadsBack (Json.maxDepth - 1)) :
    (sightingWith attributes).Readable := by
  have whole : Value.ReadsBack Json.maxDepth (.object attributes) := by
    cases ordered with
    | object ascending _ =>
        refine (Value.readsBack_object_iff ascending).mpr fun key value found => ?_
        exact readsBack _ (Members.mem_of_get? found)
  rw [Value.readsBack_iff] at whole
  exact Option.isSome_of_eq_some whole

def textSighting (texts : List (String × String)) : Sighting :=
  sightingWith (texts.map fun entry => (entry.1, .string entry.2))

theorem textSighting_sound {texts : List (String × String)}
    (ascending : texts.Pairwise fun first second => first.1 < second.1) :
    (textSighting texts).Normal ∧ (textSighting texts).Readable := by
  have ordered : Value.Ordered (.object (texts.map fun entry => (entry.1, .string entry.2))) := by
    refine .object (List.pairwise_map.mpr ascending) (List.forall_mem_map.mpr ?_)
    exact fun entry _ => .string entry.2
  constructor
  · exact normal_sightingWith ordered (List.forall_mem_map.mpr fun entry _ => by simp)
  · refine readable_sightingWith ordered (List.forall_mem_map.mpr ?_)
    exact fun entry _ => Value.readsBack_string _ entry.2

def objectSighting (key : String) (n : Nat) : Sighting :=
  sightingWith [("os", .object [(key, .ofNat n)])]

theorem objectSighting_sound (key : String) (n : Nat) :
    (objectSighting key n).Normal ∧ (objectSighting key n).Readable := by
  have ascending : Members.Ascending [(key, .ofNat n)] := List.pairwise_singleton _ _
  have inner : Value.Ordered (.object [(key, .ofNat n)]) :=
    .object ascending (List.forall_mem_singleton.mpr (.number _))
  have ordered : Value.Ordered (.object [("os", .object [(key, .ofNat n)])]) :=
    .object (List.pairwise_singleton _ _) (List.forall_mem_singleton.mpr inner)
  constructor
  · exact normal_sightingWith ordered (by simp)
  · refine readable_sightingWith ordered (List.forall_mem_singleton.mpr ?_)
    refine (Value.readsBack_object_iff ascending).mpr fun other value found => ?_
    obtain ⟨_, rfl⟩ := List.mem_singleton.mp (Members.mem_of_get? found)
    exact Value.readsBack_ofNat _ n

theorem Recalls.found {history before : List Sighting} {attributes : Members}
    {answer : Except TableError (Option Device)} (recalls : Recalls history "d" answer)
    (split : history = before ++ [sightingWith attributes])
    (sound : ∀ sighting ∈ history, sighting.Normal ∧ sighting.Readable) :
    ∃ device, answer = .ok (some device) :=
  recalls.returned before (sightingWith attributes) [] split rfl (by simp)
    (legible_sightingWith attributes) fun sighting inside _ => (sound sighting inside).2

/-! ### Every history -/

/-- New values win, when they do: after every history of sightings a lookup of a device returns the
keys that were carried, and for each of them the value carried last exactly under the conditions
that `Recalls` names. -/
theorem every_history_recalled (history : List Sighting)
    (normal : ∀ sighting ∈ history, sighting.Normal) :
    ∃ table, Table.record history = .ok table ∧
      ∀ devId, Recalls history devId (table.get devId) := by
  obtain ⟨table, recorded, holds⟩ := record_holds normal
  exact ⟨table, recorded, holds.recalls normal⟩

def textHistory : List Sighting :=
  [textSighting [("os", "Android"), ("ssid", "Guest")], textSighting [("ssid", "Corp")]]

theorem textHistory_sound : ∀ sighting ∈ textHistory, sighting.Normal ∧ sighting.Readable := by
  rw [textHistory, List.forall_mem_cons, List.forall_mem_singleton]
  exact ⟨textSighting_sound (by decide), textSighting_sound (by decide)⟩

/-- The newer network is recalled, and the system that only the first sighting carried. -/
theorem every_history_recalled_of_texts :
    (∀ sighting ∈ textHistory, sighting.Normal) ∧ ∃ table device,
      Table.record textHistory = .ok table ∧ table.get "d" = .ok (some device) ∧
      device.attributes.get? "ssid" = some (.string "Corp") ∧
      device.attributes.get? "os" = some (.string "Android") := by
  have normal : ∀ sighting ∈ textHistory, sighting.Normal :=
    fun sighting inside => (textHistory_sound sighting inside).1
  obtain ⟨table, recorded, recalls⟩ := every_history_recalled textHistory normal
  have newest : textHistory = [textSighting [("os", "Android"), ("ssid", "Guest")]] ++
      textSighting [("ssid", "Corp")] :: [] := rfl
  have oldest : textHistory = [] ++ textSighting [("os", "Android"), ("ssid", "Guest")] ::
      [textSighting [("ssid", "Corp")]] := rfl
  obtain ⟨device, found⟩ := (recalls "d").found newest textHistory_sound
  refine ⟨normal, table, device, recorded, found, ?_, ?_⟩
  · exact (recalls "d").text found newest rfl rfl (by simp)
  · refine (recalls "d").text found oldest rfl rfl (List.forall_mem_singleton.mpr fun _ => ?_)
    decide

def objectHistory : List Sighting :=
  [objectSighting "a" 1, objectSighting "b" 2]

theorem objectHistory_sound :
    ∀ sighting ∈ objectHistory, sighting.Normal ∧ sighting.Readable := by
  rw [objectHistory, List.forall_mem_cons, List.forall_mem_singleton]
  exact ⟨objectSighting_sound "a" 1, objectSighting_sound "b" 2⟩

/-- The last value does not always win: of two objects under one key the members of the older one
stay. -/
theorem older_members_kept :
    (∀ sighting ∈ objectHistory, sighting.Normal) ∧ ∃ table device,
      Table.record objectHistory = .ok table ∧ table.get "d" = .ok (some device) ∧
      (objectHistory.getLast?.bind fun last => last.attributes.get? "os") =
        some (.object [("b", .ofNat 2)]) ∧
      device.attributes.get? "os" ≠ some (.object [("b", .ofNat 2)]) := by
  have normal : ∀ sighting ∈ objectHistory, sighting.Normal :=
    fun sighting inside => (objectHistory_sound sighting inside).1
  obtain ⟨table, recorded, holds⟩ := record_holds normal
  have recalls := holds.recalls normal "d"
  have split : objectHistory = [objectSighting "a" 1] ++ objectSighting "b" 2 :: [] := rfl
  obtain ⟨device, found⟩ := recalls.found split objectHistory_sound
  refine ⟨normal, table, device, recorded, found, rfl, fun recalled => ?_⟩
  have wins := ((recalls.values device found _ _ _ "os" _ split rfl rfl (by simp)).mp recalled).1
  cases wins _ rfl with
  | object named _ =>
      have same : "a" = "b" := List.mem_singleton.mp (named "a" (List.mem_singleton.mpr rfl))
      exact absurd same (by decide)

end PresenceGateway.Tracker
