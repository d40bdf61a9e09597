import Mathlib.Logic.Relation
import PresenceGateway.Payload.Validator
import PresenceGateway.Presence.Normalizer
import PresenceGateway.Proofs.Json.Members
/-!
Edits of a payload that make no difference. Of each of its parts only certain fields are read, so keys
with other names can come and go; and a field that may be missing can be null instead.

An edit deep in a payload is followed outwards. Each part has a reading, and what an edit of the part
leaves alone is the reading; the part around it reads nothing else of it.
-/
namespace PresenceGateway

open Json (Value Members)

/-! ### What the readings depend on -/

namespace Json.Decode

variable {items : List Value}

theorem optionalItem_append_null (items : List Value) (place : Nat) :
    optionalItem (items ++ [.null]) place = optionalItem items place := by
  unfold optionalItem
  rw [List.getElem?_append]
  split
  · rfl
  · rename_i beyond
    rw [List.getElem?_eq_none (Nat.le_of_not_lt beyond)]
    cases place - items.length <;> rfl

theorem item_append_null {α : Type} {place : Nat} (within : place < items.length) (record : String)
    (decode : Value → Except DecodeError α) :
    item record decode (items ++ [.null]) place = item record decode items place := by
  unfold item
  rw [List.getElem?_append_left within, List.getElem?_eq_getElem within]

theorem noMore_append_null {count : Nat} (room : items.length < count) :
    noMore count (items ++ [.null]) = noMore count items := by
  unfold noMore
  rw [List.length_append, List.length_singleton, if_neg (by omega), if_neg (by omega)]

end Json.Decode

theorem Location.ofMembers_congr {before after : Members}
    (lat : after.get? "lat" = before.get? "lat") (lng : after.get? "lng" = before.get? "lng")
    (unc : Json.Decode.present (after.get? "unc") = Json.Decode.present (before.get? "unc")) :
    ofMembers after = ofMembers before := by
  unfold ofMembers
  rw [lat, lng, unc]

namespace Observation

theorem ofMembers_congr {before after : Members}
    (clientMac : after.get? "clientMac" = before.get? "clientMac")
    (location : Json.Decode.optional Location.decode (after.get? "location") =
      Json.Decode.optional Location.decode (before.get? "location"))
    (others : ∀ key ∈ ["name", "os", "manufacturer", "ipv4", "ipv6", "seenTime", "ssid"],
      Json.Decode.present (after.get? key) = Json.Decode.present (before.get? key)) :
    ofMembers after = ofMembers before := by
  unfold ofMembers
  dsimp only
  rw [clientMac, location, others "name" (by decide), others "os" (by decide),
    others "manufacturer" (by decide), others "ipv4" (by decide), others "ipv6" (by decide),
    others "seenTime" (by decide), others "ssid" (by decide)]

theorem ofItems_congr {before after : List Value}
    (clientMac : ∀ record, Json.Decode.item record Json.Decode.string after 0 =
      Json.Decode.item record Json.Decode.string before 0)
    (location : ∀ record, Json.Decode.item record Location.decode after 1 =
      Json.Decode.item record Location.decode before 1)
    (ends : Json.Decode.noMore 9 after = Json.Decode.noMore 9 before)
    (others : ∀ place, 2 ≤ place →
      Json.Decode.optionalItem after place = Json.Decode.optionalItem before place) :
    ofItems after = ofItems before := by
  unfold ofItems
  dsimp only
  rw [clientMac, location, ends, others 2 (by decide), others 3 (by decide), others 4 (by decide),
    others 5 (by decide), others 6 (by decide), others 7 (by decide), others 8 (by decide)]

end Observation

namespace Payload

def readList (found : Option Value) : Except Rejection (List Observation) := do
  checkObservations 0 (← checkList found)

def readData (found : Option Value) : Except Rejection (Option Value × List Observation) := do
  let data ← checkData found
  let observations ← readList (data.get? "observations")
  return (Json.Decode.present (data.get? "apMac"), observations)

/-- Nothing of the data of a payload has a part in its validation but what is read of them. -/
theorem validate_eq (configured : String) (payload : Members) :
    validate configured payload = do
      let secret ← checkSecret configured (payload.get? "secret")
      let version ← checkName ApiVersion.parse? .invalidVersion (payload.get? "version")
      let observationType ← checkName ObservationType.parse? .invalidType (payload.get? "type")
      let read ← readData (payload.get? "data")
      let request : Request :=
        { secret, version, observationType, apMac := read.1, observations := read.2 }
      return if read.2.isEmpty then .empty request else .ready request := by
  simp only [validate, readData, readList, bind_assoc, pure_bind]

theorem validate_congr (configured : String) {before after : Members}
    (secret : after.get? "secret" = before.get? "secret")
    (version : after.get? "version" = before.get? "version")
    (type : after.get? "type" = before.get? "type")
    (data : readData (after.get? "data") = readData (before.get? "data")) :
    validate configured after = validate configured before := by
  rw [validate_eq, validate_eq, secret, version, type, data]

theorem readData_congr {before after : Members}
    (observations : readList (after.get? "observations") = readList (before.get? "observations"))
    (apMac : Json.Decode.present (after.get? "apMac") =
      Json.Decode.present (before.get? "apMac")) :
    readData (some (.object after)) = readData (some (.object before)) := by
  have read (data : Members) : readData (some (.object data)) = do
      let observations ← readList (data.get? "observations")
      return (Json.Decode.present (data.get? "apMac"), observations) := rfl
  rw [read, read, observations, apMac]

theorem readList_present (found : Option Value) :
    readList (Json.Decode.present found) = readList found := by
  unfold Json.Decode.present
  split <;> rfl

theorem checkObservations_set {items : List Value} {place : Nat} {before after : Value}
    (here : items[place]? = some before)
    (same : Observation.decode after = Observation.decode before) (index : Nat) :
    checkObservations index (items.set place after) = checkObservations index items := by
  induction items generalizing place index with
  | nil => rfl
  | cons item rest ih =>
      cases place with
      | zero =>
          obtain rfl : item = before := Option.some.inj here
          rw [List.set_cons_zero, checkObservations, checkObservations, same]
      | succ place =>
          rw [List.set_cons_succ, checkObservations, checkObservations, ih here]

/-! ### Parts and their fields -/

inductive Part where
  | payload
  | data
  | observation
  | location

namespace Part

def required : Part → List String
  | payload => ["secret", "version", "type", "data"]
  | data => []
  | observation => ["clientMac", "location"]
  | location => ["lat", "lng"]

def optional : Part → List String
  | payload => []
  | data => ["observations", "apMac"]
  | observation => ["name", "os", "manufacturer", "ipv4", "ipv6", "seenTime", "ssid"]
  | location => ["unc"]

def fields (part : Part) : List String :=
  part.required ++ part.optional

theorem fields_nodup (part : Part) : part.fields.Nodup := by
  cases part <;> decide

end Part

/-! ### Edits -/

/-- A change of one member of a part: a key that is no field is bound to whatever or erased, and a
field that may be missing is bound to null where it is missing, or erased where it is null. -/
inductive MemberEdit (part : Part) (members : Members) : Members → Prop where
  | binds {key : String} (unknown : key ∉ part.fields) (value : Value) :
      MemberEdit part members (members.insert key value)
  | drops {key : String} (unknown : key ∉ part.fields) :
      MemberEdit part members (members.erase key)
  | nulls {key : String} (optional : key ∈ part.optional) (missing : members.get? key = none) :
      MemberEdit part members (members.insert key .null)
  | clears {key : String} (optional : key ∈ part.optional) (null : members.get? key = some .null) :
      MemberEdit part members (members.erase key)

/-- A change of a part, or of a part inside it. The array of a part may end before a field that may be
missing, or have null for it. -/
inductive Edit : Part → Value → Value → Prop where
  | members {part : Part} {before after : Members} (edit : MemberEdit part before after) :
      Edit part (.object before) (.object after)
  | pads {part : Part} {items : List Value} (enough : part.required.length ≤ items.length)
      (room : items.length < part.fields.length) :
      Edit part (.array items) (.array (items ++ [.null]))
  | trims {part : Part} {items : List Value} (enough : part.required.length ≤ items.length)
      (room : items.length < part.fields.length) :
      Edit part (.array (items ++ [.null])) (.array items)
  | data {members : Members} {before after : Value} (found : members.get? "data" = some before)
      (edit : Edit .data before after) :
      Edit .payload (.object members) (.object (members.insert "data" after))
  | observation {members : Members} {items : List Value} {place : Nat} {before after : Value}
      (found : members.get? "observations" = some (.array items))
      (here : items[place]? = some before) (edit : Edit .observation before after) :
      Edit .data (.object members)
        (.object (members.insert "observations" (.array (items.set place after))))
  | location {members : Members} {before after : Value}
      (found : members.get? "location" = some before) (edit : Edit .location before after) :
      Edit .observation (.object members) (.object (members.insert "location" after))
  | locationItem {items : List Value} {before after : Value} (here : items[1]? = some before)
      (edit : Edit .location before after) :
      Edit .observation (.array items) (.array (items.set 1 after))

/-! ### What an edit of one member leaves alone -/

/-- Two objects have the same in all fields of a part, where null is the same as nothing. -/
structure Part.Agree (part : Part) (before after : Members) : Prop where
  required : ∀ key ∈ part.required, after.get? key = before.get? key
  optional : ∀ key ∈ part.optional,
    Json.Decode.present (after.get? key) = Json.Decode.present (before.get? key)

theorem Part.agree_of_elsewhere {part : Part} {before after : Members} {key : String}
    (elsewhere : ∀ other, other ≠ key → after.get? other = before.get? other)
    (free : key ∉ part.required)
    (here : key ∈ part.optional →
      Json.Decode.present (after.get? key) = Json.Decode.present (before.get? key)) :
    part.Agree before after := by
  constructor
  · intro other inside
    exact elsewhere other fun same => free (same ▸ inside)
  · intro other inside
    by_cases same : other = key
    · subst same
      exact here inside
    · rw [elsewhere other same]

theorem MemberEdit.agree {part : Part} {before after : Members}
    (edit : MemberEdit part before after) : part.Agree before after := by
  have apart {key : String} (optional : key ∈ part.optional) : key ∉ part.required :=
    fun required => (List.nodup_append.mp part.fields_nodup).2.2 key required key optional rfl
  cases edit with
  | binds unknown value =>
      obtain ⟨free, other⟩ := not_or.mp (mt List.mem_append.mpr unknown)
      exact Part.agree_of_elsewhere
        (fun _ different => Members.get?_insert_of_ne different value before)
        free fun inside => absurd inside other
  | drops unknown =>
      obtain ⟨free, other⟩ := not_or.mp (mt List.mem_append.mpr unknown)
      exact Part.agree_of_elsewhere (fun _ different => Members.get?_erase_of_ne different before)
        free fun inside => absurd inside other
  | nulls optional missing =>
      refine Part.agree_of_elsewhere
        (fun _ different => Members.get?_insert_of_ne different .null before)
        (apart optional) fun _ => ?_
      rw [Members.get?_insert, if_pos rfl, missing]
      rfl
  | clears optional null =>
      refine Part.agree_of_elsewhere (fun _ different => Members.get?_erase_of_ne different before)
        (apart optional) fun _ => ?_
      rw [Members.get?_erase, if_pos rfl, null]
      rfl

/-! ### What any edit leaves alone -/

def Part.Same : Part → Value → Value → Prop
  | payload, before, after =>
    ∀ configured, validateValue configured after = validateValue configured before
  | data, before, after => readData (some after) = readData (some before)
  | observation, before, after => Observation.decode after = Observation.decode before
  | location, before, after => Location.decode after = Location.decode before

theorem Part.Same.symm {part : Part} {before after : Value} (same : part.Same before after) :
    part.Same after before := by
  cases part with
  | payload => exact fun configured => (same configured).symm
  | data => exact Eq.symm same
  | observation => exact Eq.symm same
  | location => exact Eq.symm same

theorem Part.Agree.same {part : Part} {before after : Members} (agree : part.Agree before after) :
    part.Same (.object before) (.object after) := by
  cases part with
  | payload =>
      intro configured
      refine validate_congr configured (agree.required _ (by decide)) (agree.required _ (by decide))
        (agree.required _ (by decide)) ?_
      rw [agree.required "data" (by decide)]
  | data =>
      refine readData_congr ?_ (agree.optional "apMac" (by decide))
      rw [← readList_present, agree.optional "observations" (by decide), readList_present]
  | observation =>
      refine Observation.ofMembers_congr (agree.required _ (by decide)) ?_ agree.optional
      rw [agree.required "location" (by decide)]
  | location =>
      exact Location.ofMembers_congr (agree.required _ (by decide)) (agree.required _ (by decide))
        (agree.optional _ (by decide))

/-- The array of a payload or of its data is refused in any case. -/
theorem Part.same_append_null {part : Part} {items : List Value}
    (enough : part.required.length ≤ items.length) (room : items.length < part.fields.length) :
    part.Same (.array items) (.array (items ++ [.null])) := by
  cases part with
  | payload => exact fun _ => rfl
  | data => rfl
  | observation =>
      have enough : 2 ≤ items.length := enough
      have room : items.length < 9 := room
      exact Observation.ofItems_congr (fun record => Json.Decode.item_append_null (by omega) record _)
        (fun record => Json.Decode.item_append_null (by omega) record _)
        (Json.Decode.noMore_append_null room)
        fun place _ => Json.Decode.optionalItem_append_null items place
  | location =>
      have enough : 2 ≤ items.length := enough
      have room : items.length < 3 := room
      change Location.ofItems (items ++ [.null]) = Location.ofItems items
      unfold Location.ofItems
      rw [Json.Decode.item_append_null (by omega), Json.Decode.item_append_null (by omega),
        Json.Decode.noMore_append_null room, Json.Decode.optionalItem_append_null]

theorem Edit.same {part : Part} {before after : Value} (edit : Edit part before after) :
    part.Same before after := by
  -- By induction on how deep the edit is. Of an inner part the outer one uses only what is read of it.
  induction edit with
  | members edit => exact edit.agree.same
  | pads enough room => exact Part.same_append_null enough room
  | trims enough room => exact (Part.same_append_null enough room).symm
  | @data members before after found edit ih =>
      have same : readData (some after) = readData (some before) := ih
      intro configured
      refine validate_congr configured (Members.get?_insert_of_ne (by decide) _ _)
        (Members.get?_insert_of_ne (by decide) _ _) (Members.get?_insert_of_ne (by decide) _ _) ?_
      rw [Members.get?_insert, if_pos rfl, found, same]
  | @observation members items place before after found here edit ih =>
      refine readData_congr ?_ ?_
      · rw [Members.get?_insert, if_pos rfl, found]
        exact checkObservations_set here ih 0
      · rw [Members.get?_insert_of_ne (by decide)]
  | @location members before after found edit ih =>
      have same : Location.decode after = Location.decode before := ih
      refine Observation.ofMembers_congr (Members.get?_insert_of_ne (by decide) _ _) ?_ ?_
      · rw [Members.get?_insert, if_pos rfl, found]
        exact congrArg (Except.map some) same
      · intro key optional
        rw [Members.get?_insert_of_ne]
        rintro rfl
        revert optional
        decide
  | @locationItem items before after here edit ih =>
      have same : Location.decode after = Location.decode before := ih
      obtain ⟨within, rfl⟩ := List.getElem?_eq_some_iff.mp here
      refine Observation.ofItems_congr (fun record => ?_) (fun record => ?_) ?_ fun place other => ?_
      · unfold Json.Decode.item
        rw [List.getElem?_set_ne (by decide), List.length_set]
      · unfold Json.Decode.item
        rw [List.getElem?_set_self within, here]
        exact same
      · unfold Json.Decode.noMore
        rw [List.length_set]
      · unfold Json.Decode.optionalItem
        rw [List.getElem?_set_ne (by omega)]

/-- Whatever unknown keys come and go in a payload, its data, its observations and their locations, and
whichever fields that may be missing are null instead: the payload is accepted as the same request or
refused for the same reason, and so the same updates come out of it under every policy. -/
theorem result_kept_by_edits (configured : String) {before after : Value}
    (edits : Relation.ReflTransGen (Edit .payload) before after) :
    validateValue configured after = validateValue configured before ∧
      ∀ policy, (validateValue configured after).map (·.request.updates policy) =
        (validateValue configured before).map (·.request.updates policy) := by
  have kept : validateValue configured after = validateValue configured before := by
    induction edits with
    | refl => rfl
    | tail _ edit ih => exact (edit.same configured).trans ih
  exact ⟨kept, fun policy => by rw [kept]⟩

def oneDevice (device : Members) : Value :=
  .object [
    ("data", .object [("observations", .array [.object device])]),
    ("secret", .string "s"), ("type", .string "DevicesSeen"), ("version", .string "2.1")]

/-- The location of a device gets a key that nothing knows, and the device loses a name that is null. -/
theorem result_kept_by_edits_of_one_device :
    ∃ validated,
      validateValue "s" (oneDevice [
        ("clientMac", .string "a"),
        ("location", .object [("lat", .string "1.5"), ("lng", .string "2.5")]),
        ("name", .null)]) = .ok validated ∧
      validateValue "s" (oneDevice [
        ("clientMac", .string "a"),
        ("location", .object
          [("floor", .string "2"), ("lat", .string "1.5"), ("lng", .string "2.5")])]) =
        .ok validated := by
  have within {before after : Members} (edit : Edit .observation (.object before) (.object after)) :
      Edit .payload (oneDevice before) (oneDevice after) :=
    .data rfl (.observation rfl (show [Value.object before][0]? = some (.object before) from rfl) edit)
  have known : MemberEdit .location [("lat", .string "1.5"), ("lng", .string "2.5")] _ :=
    .binds (show "floor" ∉ Part.location.fields by decide) (.string "2")
  have placed : Edit .observation (.object [
      ("clientMac", .string "a"),
      ("location", .object [("lat", .string "1.5"), ("lng", .string "2.5")]),
      ("name", .null)]) _ :=
    .location rfl (.members known)
  have name : "name" ∈ Part.observation.optional := by decide
  obtain ⟨kept, _⟩ := result_kept_by_edits "s"
    (.tail (.single (within placed)) (within (.members (.clears name rfl))))
  exact ⟨_, rfl, kept⟩

end Payload

end PresenceGateway
