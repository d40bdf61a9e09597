import PresenceGateway.Presence.Normalizer
import PresenceGateway.Proofs.Json.Nesting
import PresenceGateway.Proofs.Payload.Acceptance
import PresenceGateway.Proofs.Presence.Attributes
/-!
What accepted bodies report. A body nests at most 127 deep, and what it reports about a device stands
at least one level down. So the attributes of an update can be stored as an object and read again,
whatever was sent; and an update has a position with an accuracy of 32 bits, or neither.
-/
namespace PresenceGateway

open Json (Value Members)

/-! ### Reported values -/

namespace Observation

/-- The metadata of an observation are parts of the value it is decoded from. -/
theorem metadata_within {levels : Nat} {item : Value} {observation : Observation}
    (within : item.Within (levels + 1)) (decoded : decode item = .ok observation) (key : String)
    (value : Value) (reported : (key, some value) ∈ observation.metadata) :
    value.Within levels := by
  cases item with
  | object members =>
      obtain ⟨clientMac, _, decoded⟩ := bind_eq_ok_iff.mp decoded
      obtain ⟨location, _, decoded⟩ := bind_eq_ok_iff.mp decoded
      obtain ⟨mac, _, decoded⟩ := bind_eq_ok_iff.mp decoded
      obtain ⟨place, _, decoded⟩ := bind_eq_ok_iff.mp decoded
      cases decoded
      have field (name : String) (found : some value = Json.Decode.present (Members.get? members name)) :
          value.Within levels :=
        within.member ((Payload.present_eq_some_iff _ _).mp found.symm).1
      simp only [metadata, List.mem_cons, Prod.mk.injEq, List.not_mem_nil, or_false] at reported
      rcases reported with ⟨_, same⟩ | ⟨_, same⟩ | ⟨_, same⟩ | ⟨_, same⟩ | ⟨_, same⟩ | ⟨_, same⟩
      all_goals exact field _ same
  | array items =>
      obtain ⟨clientMac, _, decoded⟩ := bind_eq_ok_iff.mp decoded
      obtain ⟨location, _, decoded⟩ := bind_eq_ok_iff.mp decoded
      obtain ⟨_, _, decoded⟩ := bind_eq_ok_iff.mp decoded
      cases decoded
      have field (place : Nat) (found : some value = Json.Decode.optionalItem items place) :
          value.Within levels := by
        obtain ⟨here, _⟩ := (Payload.present_eq_some_iff _ _).mp found.symm
        exact within.item (List.mem_of_getElem? here)
      simp only [metadata, List.mem_cons, Prod.mk.injEq, List.not_mem_nil, or_false] at reported
      rcases reported with ⟨_, same⟩ | ⟨_, same⟩ | ⟨_, same⟩ | ⟨_, same⟩ | ⟨_, same⟩ | ⟨_, same⟩
      all_goals exact field _ same
  | null => cases decoded
  | bool flag => cases decoded
  | number number => cases decoded
  | string text => cases decoded

end Observation

namespace Payload

theorem within_of_read {body : List UInt8} {members : Members} (found : read body = .ok members) :
    (Value.object members).Within Json.maxDepth := by
  unfold read at found
  split at found
  · cases found
  · rename_i same
    cases found
    exact Value.within_of_read? same
  · cases found

/-- Everything that an accepted body reports about a device nests one level less deep than the body
may. -/
theorem reported_within {configured : String} {body : List UInt8} {validated : Validated}
    (accepted : validateBody configured body = .ok validated) :
    ∀ observation ∈ validated.request.observations, ∀ key value,
      (key, some value) ∈ observation.reported validated.request.apMac →
        value.Within (Json.maxDepth - 1) := by
  obtain ⟨members, found, accepted⟩ := bind_eq_ok_iff.mp accepted
  obtain ⟨passes, _, said, _⟩ := validate_eq_ok accepted
  have payload : (Value.object members).Within (126 + 1) := within_of_read found
  obtain ⟨data, isData⟩ := passes .data
  have inData : (Value.object data).Within (125 + 1) := payload.member isData
  have apart := dataField?_eq isData
  intro observation seen key value reported
  rcases List.mem_append.mp reported with metadata | accessPoint
  · have image : Except.ok observation ∈
        (listed (.object members)).map Observation.decode := by
      rw [said.observations]
      exact List.mem_map_of_mem seen
    obtain ⟨item, inside, decoded⟩ := List.mem_map.mp image
    have listWithin : item.Within (123 + 1) := by
      unfold listed at inside
      rw [apart] at inside
      unfold itemsOf at inside
      split at inside
      · rename_i items isList
        have list : (Value.array items).Within (124 + 1) := inData.member isList
        exact list.item inside
      · cases inside
    exact (Observation.metadata_within listWithin decoded key value metadata).mono (by decide)
  · rw [List.mem_singleton, Prod.mk.injEq] at accessPoint
    obtain ⟨there, _⟩ := (said.apMac value).mp accessPoint.2.symm
    rw [apart] at there
    exact (inData.member there).mono (by decide)

end Payload

/-! ### Updates -/

theorem Accuracy.parse_le (uncertainty : Option Value) : parse uncertainty ≤ maximum := by
  unfold parse
  split
  · unfold clamp
    split
    · exact Nat.zero_le _
    · exact Nat.min_le_right _ _
  · exact Nat.zero_le _

/-- What every update of an accepted payload satisfies: its attributes are an object that can be
stored and read, none of them is null, and it has a position with an accuracy or neither. -/
structure Update.Sound (update : Update) : Prop where
  ascending : update.attributes.Ascending
  nested : ∀ member ∈ update.attributes, member.2.Within (Json.maxDepth - 1)
  noNull : ∀ key, update.attributes.get? key ≠ some .null
  located : update.gps.isSome = update.gpsAccuracy.isSome
  measured : ∀ accuracy ∈ update.gpsAccuracy, accuracy ≤ Accuracy.maximum

/-- An update that comes from an accepted body. -/
def Update.Accepted (update : Update) : Prop :=
  ∃ configured body validated policy, Payload.validateBody configured body = .ok validated ∧
    update ∈ validated.request.updates policy

theorem Update.Accepted.sound {update : Update} (accepted : update.Accepted) : update.Sound := by
  obtain ⟨configured, body, validated, policy, accepted, inside⟩ := accepted
  obtain ⟨observation, seen, rfl⟩ := List.mem_map.mp inside
  have reported := Payload.reported_within accepted observation seen
  constructor
  · exact Members.ascending_ofList _
  · intro member inside
    exact reported _ _ (Observation.reported_of_mem_attributes inside).1
  · exact Observation.attributes_ne_null
  · change (observation.position.map (·.1)).isSome = (observation.position.map (·.2)).isSome
    rw [Option.isSome_map, Option.isSome_map]
  · intro accuracy measured
    obtain ⟨position, found, rfl⟩ := Option.map_eq_some_iff.mp measured
    unfold Observation.position at found
    dsimp only at found
    split at found
    · cases found
    · cases found
      exact Accuracy.parse_le _

end PresenceGateway
