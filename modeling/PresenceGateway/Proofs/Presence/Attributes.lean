import PresenceGateway.Presence.Normalizer
import PresenceGateway.Proofs.Json.Members
/-!
The attributes of an update: whatever the policy, their keys ascend, none of them is null, and each
has a value that was reported.
-/
namespace PresenceGateway

open Json (Value Members)

theorem AttributePolicy.not_keeps_null (policy : AttributePolicy) : policy.keeps .null = false := by
  cases policy <;> rfl

namespace Observation

variable {observation : Observation} {policy : AttributePolicy} {apMac : Option Value}

theorem reported_of_mem_attributes {member : String × Value}
    (inside : member ∈ observation.attributes policy apMac) :
    (member.1, some member.2) ∈ observation.reported apMac ∧ policy.keeps member.2 = true := by
  have listed := Members.mem_ofList inside
  rw [List.mem_filterMap] at listed
  obtain ⟨⟨key, given⟩, reported, made⟩ := listed
  obtain ⟨value, kept, rfl⟩ := Option.map_eq_some_iff.mp made
  obtain ⟨given, keeps⟩ := Option.filter_eq_some_iff.mp kept
  dsimp only at given
  subst given
  exact ⟨reported, keeps⟩

theorem ne_null_of_mem_attributes {member : String × Value}
    (inside : member ∈ observation.attributes policy apMac) : member.2 ≠ .null := by
  intro null
  have keeps := (reported_of_mem_attributes inside).2
  rw [null, policy.not_keeps_null] at keeps
  cases keeps

theorem attributes_ne_null (key : String) :
    (observation.attributes policy apMac).get? key ≠ some .null :=
  fun null => ne_null_of_mem_attributes (Members.mem_of_get? null) rfl

theorem reported_keys_nodup : ((observation.reported apMac).map (·.1)).Nodup := by
  have keys : (observation.reported apMac).map (·.1) =
      ["os", "manufacturer", "ipv4", "ipv6", "seenTime", "ssid", "ap_mac"] := rfl
  rw [keys]
  decide

/-- Each key has what was reported under it, if the policy keeps that. -/
theorem get?_attributes (key : String) :
    (observation.attributes policy apMac).get? key =
      ((observation.reported apMac).lookup key).join.filter policy.keeps :=
  Members.get?_ofList_passing reported_keys_nodup key

theorem get?_attributes_of_reported {key : String} {value : Value}
    (reported : (key, some value) ∈ observation.reported apMac) :
    (observation.attributes policy apMac).get? key =
      if policy.keeps value then some value else none := by
  rw [get?_attributes, lookup_of_mem reported_keys_nodup reported, Option.join_some,
    Option.filter_some]

/-- The attributes are an object with ascending keys, as far as what was reported has ascending
keys. -/
theorem attributes_ordered
    (reported : ∀ key value, (key, some value) ∈ observation.reported apMac → value.Ordered) :
    Value.Ordered (.object (observation.attributes policy apMac)) := by
  refine .object (Members.ascending_ofList _) ?_
  intro member inside
  exact reported member.1 member.2 (reported_of_mem_attributes inside).1

end Observation

end PresenceGateway
