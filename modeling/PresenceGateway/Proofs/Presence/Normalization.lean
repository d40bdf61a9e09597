import PresenceGateway.Proofs.Payload.Acceptance
import PresenceGateway.Proofs.Presence.Attributes
/-!
What the updates of an accepted payload say. There is one for each of its records, in order, and it is
made from that record and the access point of the payload alone: who was seen, under which name, where,
and with the attributes that the policy keeps, each with the JSON value that was reported.
-/
namespace PresenceGateway

open Json (Value Members)

/-! ### Records -/

/-- A field of a record: what an object holds under its name, or an array at its place. -/
def Json.Value.entry? (name : String) (place : Nat) : Value → Option Value
  | .object members => Members.get? members name
  | .array items => items[place]?
  | _ => none

def Observation.attributePlaces : List (String × Nat) :=
  [("os", 3), ("manufacturer", 4), ("ipv4", 5), ("ipv6", 6), ("seenTime", 7), ("ssid", 8)]

def Observation.source? (apMac : Option Value) (record : Value) (key : String) : Option Value :=
  if key = "ap_mac" then apMac
  else (attributePlaces.lookup key).bind fun place => record.entry? key place

structure Location.Reads (record : Value) (location : Location) : Prop where
  lat : record.entry? "lat" 0 = some location.lat.toJson
  lng : record.entry? "lng" 1 = some location.lng.toJson
  unc : location.unc = Json.Decode.present (record.entry? "unc" 2)

structure Observation.Reads (record : Value) (observation : Observation) : Prop where
  clientMac : record.entry? "clientMac" 0 = some (.string observation.clientMac)
  location : ∃ place, record.entry? "location" 1 = some place ∧ observation.location.Reads place
  name : observation.name = Json.Decode.present (record.entry? "name" 2)
  metadata : observation.metadata = attributePlaces.map fun field =>
    (field.1, Json.Decode.present (record.entry? field.1 field.2))

namespace Json.Decode

theorem required_eq_ok {α : Type} {decode : Value → Except DecodeError α} {name : String}
    {given : Option Value} {found : Option α} {value : α} (optional : optional decode given = .ok found)
    (required : required name found = .ok value) :
    ∃ raw, given = some raw ∧ decode raw = .ok value := by
  cases found with
  | none => cases required
  | some other =>
      cases required
      cases given with
      | none => cases optional
      | some raw =>
          refine ⟨raw, rfl, ?_⟩
          change (decode raw).map some = _ at optional
          cases decoded : decode raw with
          | error cause =>
              rw [decoded] at optional
              cases optional
          | ok result =>
              rw [decoded] at optional
              cases optional
              rfl

theorem item_eq_ok {α : Type} {record : String} {decode : Value → Except DecodeError α}
    {items : List Value} {place : Nat} {value : α} (read : item record decode items place = .ok value) :
    ∃ raw, items[place]? = some raw ∧ decode raw = .ok value := by
  unfold item at read
  split at read
  · exact ⟨_, by assumption, read⟩
  · cases read

theorem string_eq_ok {raw : Value} {text : String} (read : string raw = .ok text) :
    raw = .string text := by
  unfold string at read
  split at read
  · cases read
    rfl
  · cases read

end Json.Decode

theorem Coordinate.toJson_of_decode {raw : Value} {coordinate : Coordinate}
    (decoded : decode raw = .ok coordinate) : raw = coordinate.toJson := by
  unfold decode at decoded
  split at decoded
  · cases decoded
    rfl
  · cases decoded
    rfl
  · cases decoded

theorem Coordinate.isUnknown_iff (coordinate : Coordinate) :
    coordinate.isUnknown = true ↔ coordinate.toJson = .string "NaN" := by
  cases coordinate with
  | number value => simp [isUnknown, toJson]
  | text value => simp [isUnknown, toJson, unknownText]

theorem Location.reads_of_decode {record : Value} {location : Location}
    (decoded : decode record = .ok location) : location.Reads record := by
  cases record with
  | object members =>
      obtain ⟨lat, latRead, decoded⟩ := bind_eq_ok_iff.mp decoded
      obtain ⟨lng, lngRead, decoded⟩ := bind_eq_ok_iff.mp decoded
      obtain ⟨latitude, latGiven, decoded⟩ := bind_eq_ok_iff.mp decoded
      obtain ⟨longitude, lngGiven, decoded⟩ := bind_eq_ok_iff.mp decoded
      cases decoded
      obtain ⟨latRaw, latFound, latDecoded⟩ := Json.Decode.required_eq_ok latRead latGiven
      obtain ⟨lngRaw, lngFound, lngDecoded⟩ := Json.Decode.required_eq_ok lngRead lngGiven
      refine ⟨latFound.trans ?_, lngFound.trans ?_, rfl⟩
      · rw [Coordinate.toJson_of_decode latDecoded]
      · rw [Coordinate.toJson_of_decode lngDecoded]
  | array items =>
      obtain ⟨latitude, latRead, decoded⟩ := bind_eq_ok_iff.mp decoded
      obtain ⟨longitude, lngRead, decoded⟩ := bind_eq_ok_iff.mp decoded
      obtain ⟨_, _, decoded⟩ := bind_eq_ok_iff.mp decoded
      cases decoded
      obtain ⟨latRaw, latFound, latDecoded⟩ := Json.Decode.item_eq_ok latRead
      obtain ⟨lngRaw, lngFound, lngDecoded⟩ := Json.Decode.item_eq_ok lngRead
      refine ⟨latFound.trans ?_, lngFound.trans ?_, rfl⟩
      · rw [Coordinate.toJson_of_decode latDecoded]
      · rw [Coordinate.toJson_of_decode lngDecoded]
  | null => cases decoded
  | bool flag => cases decoded
  | number number => cases decoded
  | string text => cases decoded

theorem Observation.reads_of_decode {record : Value} {observation : Observation}
    (decoded : decode record = .ok observation) : observation.Reads record := by
  cases record with
  | object members =>
      obtain ⟨mac, macRead, decoded⟩ := bind_eq_ok_iff.mp decoded
      obtain ⟨location, locationRead, decoded⟩ := bind_eq_ok_iff.mp decoded
      obtain ⟨clientMac, macGiven, decoded⟩ := bind_eq_ok_iff.mp decoded
      obtain ⟨place, locationGiven, decoded⟩ := bind_eq_ok_iff.mp decoded
      cases decoded
      obtain ⟨macRaw, macFound, macDecoded⟩ := Json.Decode.required_eq_ok macRead macGiven
      obtain ⟨placeRaw, placeFound, placeDecoded⟩ :=
        Json.Decode.required_eq_ok locationRead locationGiven
      refine ⟨macFound.trans ?_, ⟨placeRaw, placeFound, Location.reads_of_decode placeDecoded⟩, rfl,
        rfl⟩
      rw [Json.Decode.string_eq_ok macDecoded]
  | array items =>
      obtain ⟨clientMac, macRead, decoded⟩ := bind_eq_ok_iff.mp decoded
      obtain ⟨place, locationRead, decoded⟩ := bind_eq_ok_iff.mp decoded
      obtain ⟨_, _, decoded⟩ := bind_eq_ok_iff.mp decoded
      cases decoded
      obtain ⟨macRaw, macFound, macDecoded⟩ := Json.Decode.item_eq_ok macRead
      obtain ⟨placeRaw, placeFound, placeDecoded⟩ := Json.Decode.item_eq_ok locationRead
      refine ⟨macFound.trans ?_, ⟨placeRaw, placeFound, Location.reads_of_decode placeDecoded⟩, rfl,
        rfl⟩
      rw [Json.Decode.string_eq_ok macDecoded]
  | null => cases decoded
  | bool flag => cases decoded
  | number number => cases decoded
  | string text => cases decoded

/-! ### Updates -/

/-- The place of an update, from the location that was reported: none when a coordinate is the text of
a place that is not known, and otherwise both coordinates as they were reported. -/
inductive Update.Positioned (location : Value) : Option (Coordinate × Coordinate) → Option Nat → Prop where
  | unknown {lat lng : Value} (latGiven : location.entry? "lat" 0 = some lat)
      (lngGiven : location.entry? "lng" 1 = some lng)
      (some_unknown : lat = .string "NaN" ∨ lng = .string "NaN") : Positioned location none none
  | known {lat lng : Coordinate} (latGiven : location.entry? "lat" 0 = some lat.toJson)
      (lngGiven : location.entry? "lng" 1 = some lng.toJson)
      (latKnown : lat.toJson ≠ .string "NaN") (lngKnown : lng.toJson ≠ .string "NaN") :
      Positioned location (some (lat, lng)) (some (Accuracy.parse (location.entry? "unc" 2)))

/-- What an update says of a record that was seen by an access point. -/
structure Update.Tells (policy : AttributePolicy) (apMac : Option Value) (record : Value)
    (update : Update) : Prop where
  mac : record.entry? "clientMac" 0 = some (.string update.mac)
  devId : update.devId = update.mac
  named : ∀ name, record.entry? "name" 2 = some (.string name) → update.hostName = name
  unnamed : (∀ name, record.entry? "name" 2 ≠ some (.string name)) → update.hostName = update.mac
  sourceType : update.sourceType = .router
  place : ∃ location, record.entry? "location" 1 = some location ∧
    Update.Positioned location update.gps update.gpsAccuracy
  ascending : update.attributes.Ascending
  attributes : ∀ key, update.attributes.get? key =
    (Observation.source? apMac record key).filter policy.keeps

theorem Coordinate.toJson_injective {first second : Coordinate}
    (same : first.toJson = second.toJson) : first = second := by
  cases first with
  | number value =>
      cases second with
      | number other =>
          cases same
          rfl
      | text other => cases same
  | text value =>
      cases second with
      | number other => cases same
      | text other =>
          cases same
          rfl

theorem Update.Positioned.unique {location : Value} {gps gps' : Option (Coordinate × Coordinate)}
    {accuracy accuracy' : Option Nat} (first : Positioned location gps accuracy)
    (second : Positioned location gps' accuracy') : gps = gps' ∧ accuracy = accuracy' := by
  cases first with
  | unknown latGiven lngGiven some_unknown =>
      cases second with
      | unknown => exact ⟨rfl, rfl⟩
      | known latOther lngOther latKnown lngKnown =>
          rcases some_unknown with rfl | rfl
          · exact absurd (Option.some.inj (latOther.symm.trans latGiven)) latKnown
          · exact absurd (Option.some.inj (lngOther.symm.trans lngGiven)) lngKnown
  | known latGiven lngGiven latKnown lngKnown =>
      cases second with
      | unknown latOther lngOther some_unknown =>
          rcases some_unknown with rfl | rfl
          · exact absurd (Option.some.inj (latGiven.symm.trans latOther)) latKnown
          · exact absurd (Option.some.inj (lngGiven.symm.trans lngOther)) lngKnown
      | known latOther lngOther =>
          obtain rfl := Coordinate.toJson_injective (Option.some.inj (latGiven.symm.trans latOther))
          obtain rfl := Coordinate.toJson_injective (Option.some.inj (lngGiven.symm.trans lngOther))
          exact ⟨rfl, rfl⟩

/-- A record and an access point leave no choice of the update. -/
theorem Update.Tells.unique {policy : AttributePolicy} {apMac : Option Value} {record : Value}
    {first second : Update} (left : Tells policy apMac record first)
    (right : Tells policy apMac record second) : first = second := by
  have mac : first.mac = second.mac := by
    have same := left.mac.symm.trans right.mac
    cases first
    cases second
    cases same
    rfl
  have hostName : first.hostName = second.hostName := by
    by_cases named : ∃ name, record.entry? "name" 2 = some (.string name)
    · obtain ⟨name, given⟩ := named
      rw [left.named name given, right.named name given]
    · have unnamed := not_exists.mp named
      rw [left.unnamed unnamed, right.unnamed unnamed, mac]
  obtain ⟨location, given, positioned⟩ := left.place
  obtain ⟨other, otherGiven, otherPositioned⟩ := right.place
  obtain rfl := Option.some.inj (given.symm.trans otherGiven)
  obtain ⟨gps, gpsAccuracy⟩ := positioned.unique otherPositioned
  have attributes : first.attributes = second.attributes :=
    left.ascending.ext right.ascending fun key =>
      (left.attributes key).trans (right.attributes key).symm
  have devId : first.devId = second.devId := by
    rw [left.devId, right.devId, mac]
  have sourceType := left.sourceType.trans right.sourceType.symm
  cases first
  cases second
  cases mac
  cases devId
  cases hostName
  cases sourceType
  cases gps
  cases gpsAccuracy
  cases attributes
  rfl

/-! ### From records to updates -/

theorem AttributePolicy.filter_present (policy : AttributePolicy) (given : Option Value) :
    (Json.Decode.present given).filter policy.keeps = given.filter policy.keeps := by
  unfold Json.Decode.present
  split
  · rw [Option.filter_some, policy.not_keeps_null]
    rfl
  · rfl

theorem Accuracy.parse_present (given : Option Value) :
    parse (Json.Decode.present given) = parse given := by
  unfold Json.Decode.present
  split <;> rfl

namespace Observation

variable {observation : Observation} {record : Value}

theorem lookup_fields (read : String → Nat → Option Value) (key : String)
    (places : List (String × Nat)) :
    ((places.map fun field => (field.1, read field.1 field.2)).lookup key).join =
      (places.lookup key).bind (read key) := by
  induction places with
  | nil => rfl
  | cons field rest ih =>
      obtain ⟨other, place⟩ := field
      rw [List.map_cons, lookup_cons_ite, lookup_cons_ite]
      by_cases same : key = other
      · rw [if_pos same, if_pos same, same]
        rfl
      · rw [if_neg same, if_neg same]
        exact ih

theorem Reads.lookup_reported (reads : observation.Reads record) (apMac : Option Value)
    (policy : AttributePolicy) (key : String) :
    ((observation.reported apMac).lookup key).join.filter policy.keeps =
      (source? apMac record key).filter policy.keeps := by
  unfold reported source?
  rw [reads.metadata, List.lookup_append]
  by_cases own : key = "ap_mac"
  · subst own
    rfl
  · have elsewhere : List.lookup key [("ap_mac", apMac)] = none := by
      rw [lookup_cons_ite, if_neg own]
      rfl
    rw [if_neg own, elsewhere, Option.or_none,
      lookup_fields fun key place => Json.Decode.present (record.entry? key place)]
    cases attributePlaces.lookup key with
    | none => rfl
    | some place => exact policy.filter_present _

theorem Reads.tells (reads : observation.Reads record) (policy : AttributePolicy)
    (apMac : Option Value) :
    Update.Tells policy apMac record
      (observation.toUpdate policy (Json.Decode.present apMac)) where
  mac := reads.clientMac
  devId := rfl
  named := by
    intro name given
    change observation.hostName = name
    rw [hostName, reads.name, given]
    rfl
  unnamed := by
    intro unnamed
    change observation.hostName = observation.clientMac
    unfold hostName
    split
    · rename_i name given
      rw [reads.name] at given
      exact absurd ((Payload.present_eq_some_iff _ _).mp given).1 (unnamed name)
    · rfl
  sourceType := rfl
  place := by
    obtain ⟨location, given, place⟩ := reads.location
    refine ⟨location, given, ?_⟩
    change Update.Positioned location (observation.position.map (·.1))
      (observation.position.map (·.2))
    unfold position
    dsimp only
    split
    · rename_i unknown
      rw [Bool.or_eq_true, Coordinate.isUnknown_iff, Coordinate.isUnknown_iff] at unknown
      exact .unknown place.lat place.lng unknown
    · rename_i known
      rw [Bool.or_eq_true, Coordinate.isUnknown_iff, Coordinate.isUnknown_iff, not_or] at known
      rw [place.unc, Accuracy.parse_present]
      exact .known place.lat place.lng known.1 known.2
  ascending := Members.ascending_ofList _
  attributes := by
    intro key
    change (observation.attributes policy _).get? key = _
    rw [get?_attributes, reads.lookup_reported]
    unfold source?
    split
    · exact policy.filter_present apMac
    · rfl

end Observation

/-! ### From payloads to updates -/

namespace Payload

variable {payload : Value} {request : Request}

theorem Says.apMac_eq (said : Says payload request) :
    request.apMac = Json.Decode.present (dataField? payload "apMac") := by
  apply Option.ext
  intro value
  rw [said.apMac, present_eq_some_iff]

theorem Says.length_updates (said : Says payload request) (policy : AttributePolicy) :
    (request.updates policy).length = (listed payload).length := by
  have lengths := congrArg List.length said.observations
  rw [List.length_map, List.length_map] at lengths
  rw [Request.updates, List.length_map, lengths]

theorem Says.update_at (said : Says payload request) (policy : AttributePolicy) {place : Nat}
    {record : Value} (found : (listed payload)[place]? = some record) :
    ∃ update, (request.updates policy)[place]? = some update ∧
      update.Tells policy (dataField? payload "apMac") record := by
  have read : ((listed payload).map Observation.decode)[place]? =
      (request.observations.map Except.ok)[place]? := by
    rw [said.observations]
  rw [List.getElem?_map, List.getElem?_map, found, Option.map_some] at read
  obtain ⟨observation, seen, decoded⟩ := Option.map_eq_some_iff.mp read.symm
  refine ⟨observation.toUpdate policy request.apMac, ?_, ?_⟩
  · rw [Request.updates, List.getElem?_map, seen]
    rfl
  · rw [said.apMac_eq]
    exact (Observation.reads_of_decode decoded.symm).tells policy _

/-- An accepted payload gives one update for each of its records, in their order, and each says what
its record and the access point of the payload say. Nothing else in the payload has a part in it: the
same record under the same access point gives the same update, wherever it stands and whatever
stands around it. -/
theorem updates_tell_records (configured : String) (payload : Value) (validated : Validated)
    (policy : AttributePolicy) (accepted : validateValue configured payload = .ok validated) :
    (validated.request.updates policy).length = (listed payload).length ∧
      ∀ (place : Nat) (record : Value), (listed payload)[place]? = some record →
        ∃ update, (validated.request.updates policy)[place]? = some update ∧
          update.Tells policy (dataField? payload "apMac") record ∧
          ∀ (otherSecret : String) (other : Value) (otherValidated : Validated) (otherPlace : Nat),
            validateValue otherSecret other = .ok otherValidated →
            dataField? other "apMac" = dataField? payload "apMac" →
            (listed other)[otherPlace]? = some record →
            (otherValidated.request.updates policy)[otherPlace]? = some update := by
  have said := (validateValue_eq_ok accepted).2.2.1
  refine ⟨said.length_updates policy, ?_⟩
  intro place record found
  obtain ⟨update, made, tells⟩ := said.update_at policy found
  refine ⟨update, made, tells, ?_⟩
  intro otherSecret other otherValidated otherPlace otherAccepted sameAccess otherFound
  obtain ⟨otherUpdate, otherMade, otherTells⟩ :=
    (validateValue_eq_ok otherAccepted).2.2.1.update_at policy otherFound
  rw [sameAccess] at otherTells
  rw [otherMade, otherTells.unique tells]

def twoDevices : Value :=
  .object [
    ("data", .object [
      ("apMac", .string "ap"),
      ("observations", .array [
        .object [
          ("clientMac", .string "a"),
          ("location", .object [("lat", .string "NaN"), ("lng", .string "2.5")]),
          ("name", .string "phone"), ("os", .string "")],
        .array [.string "b", .array [.string "1.5", .string "2.5", .string "7"]]])]),
    ("secret", .string "s"), ("type", .string "DevicesSeen"), ("version", .string "2.1")]

/-- The second device, which has no name, is told with its place, and both with the access point. -/
theorem updates_tell_records_of_two_devices :
    ∃ validated, validateValue "s" twoDevices = .ok validated ∧
      (validated.request.updates .preserveEmpty).length = 2 ∧
      ∃ update, (validated.request.updates .preserveEmpty)[1]? = some update ∧
        update.hostName = "b" ∧ update.attributes.get? "ap_mac" = some (.string "ap") := by
  obtain ⟨validated, accepted⟩ : ∃ validated, validateValue "s" twoDevices = .ok validated :=
    ⟨_, rfl⟩
  obtain ⟨count, each⟩ := updates_tell_records "s" twoDevices validated .preserveEmpty accepted
  obtain ⟨update, made, tells, _⟩ := each 1 _ rfl
  refine ⟨validated, accepted, count, update, made, ?_, tells.attributes "ap_mac"⟩
  rw [tells.unnamed fun name => by rintro ⟨⟩]
  exact (Value.string.inj (Option.some.inj tells.mac)).symm

end Payload

end PresenceGateway
