import PresenceGateway.Proofs.Dispatch.Accounting
import PresenceGateway.Proofs.Tracker.Recording
import PresenceGateway.Proofs.Webhook.Submissions
/-!
Batches of different devices. The dispatcher ends the sink calls of a batch in any order; since each
of them changes the row of its own device only, the table after all of them is the one that recording
them in the order of the payload gives.
-/
namespace PresenceGateway.Tracker

/-! ### Sightings of different devices commute -/

theorem Sighting.applyTo_comm {first second : Sighting} (apart : first.devId ≠ second.devId)
    (rows : String → Option Row) :
    second.applyTo (first.applyTo rows) = first.applyTo (second.applyTo rows) := by
  funext devId
  unfold Sighting.applyTo
  by_cases here : first.devId = devId
  · have notThere : ¬ second.devId = devId := fun there => apart (here.trans there.symm)
    simp only [if_pos here, if_neg notThere]
  · by_cases there : second.devId = devId
    · simp only [if_neg here, if_pos there]
    · simp only [if_neg here, if_neg there]

namespace Table

/-- Two tables of which nothing that is asked tells them apart. -/
structure Agree (first second : Table) : Prop where
  rows : first.Same second
  lookups : ∀ devId, first.get devId = second.get devId
  listing : first.list = second.list

theorem agree_of_row?_eq {first second : Table} (left : first.Keyed) (right : second.Keyed)
    (rows : first.row? = second.row?) : first.Agree second := by
  have same : first.Same second := same_of_row?_eq left right rows
  refine ⟨same, fun devId => ?_, same.list_eq left⟩
  unfold get
  rw [rows]

/-- Sightings of different devices leave the same table in every order. -/
theorem Keyed.afterAll_perm {table : Table} (keyed : table.Keyed) {sightings order : List Sighting}
    (distinct : (sightings.map Sighting.devId).Nodup) (permuted : order.Perm sightings) :
    (table.afterAll order).Agree (table.afterAll sightings) := by
  apply agree_of_row?_eq (keyed.afterAll order) (keyed.afterAll sightings)
  rw [row?_afterAll, row?_afterAll]
  refine (permuted.symm.foldl_eq' ?_ table.row?).symm
  intro first inside second within rows
  by_cases same : first.devId = second.devId
  · rw [List.inj_on_of_nodup_map distinct inside within same]
  · exact Sighting.applyTo_comm same rows

end Table

/-! ### Batches -/

theorem devIds_ofUpdate (request : Request) (policy : AttributePolicy) (now : Instant) :
    ((request.updates policy).map fun update => Sighting.ofUpdate update now).map Sighting.devId =
      request.observations.map Observation.clientMac := by
  rw [Request.updates, List.map_map, List.map_map]
  rfl

theorem recordAll_perm {recorder : Recorder} (keyed : recorder.table.Keyed) {request : Request}
    {policy : AttributePolicy} (distinct : (request.observations.map Observation.clientMac).Nodup)
    {order : List Update} (permuted : order.Perm (request.updates policy)) :
    (recorder.recordAll order).table.Agree (recorder.recordAll (request.updates policy)).table := by
  rw [Recorder.recordAll_eq, Recorder.recordAll_eq]
  apply keyed.afterAll_perm
  · rw [devIds_ofUpdate]
    exact distinct
  · exact permuted.map _

/-- The order in which a batch of different devices is recorded makes no difference. Whatever the
table holds, every order of its updates leaves what the order of the payload leaves, and so does every
run of the dispatcher that has accepted all of them and ended their sink calls. Devices that are not
in the batch keep their rows. -/
theorem batch_recorded_in_any_order (table : Table) (keyed : table.Keyed) (now : Instant)
    (settings : Webhook.Settings) (delivery : Webhook.Delivery) (request : Request)
    (distinct : (request.observations.map Observation.clientMac).Nodup) :
    let recorder : Recorder := { table, now }
    let sequential := (recorder.recordAll (request.updates settings.policy)).table
    (∀ order : List Update, order.Perm (request.updates settings.policy) →
      (recorder.recordAll order).table.Agree sequential) ∧
    (∀ limits system, limits.inFlight ≤ Dispatch.Limits.mostPermits →
      Dispatch.System.Reachable limits system →
      Dispatch.accepted system.history = Webhook.jobsOf settings delivery request →
      system.queue.unfinished = [] →
      (recorder.recordAll ((Dispatch.ended system.history).map Dispatch.Job.update)).table.Agree
        sequential) ∧
    ∀ devId, devId ∉ request.observations.map Observation.clientMac →
      sequential.row? devId = table.row? devId := by
  refine ⟨fun order permuted => recordAll_perm keyed distinct permuted, ?_, ?_⟩
  · intro limits system startable reachable queued finished
    apply recordAll_perm keyed distinct
    have accounted := Dispatch.Accounted.of_reachable startable reachable
    have ended := accounted.ended_unfinished
    rw [finished, List.append_nil, queued, Webhook.jobsOf_eq] at ended
    have updates := ended.map Dispatch.Job.update
    rw [List.map_map] at updates
    exact updates.trans (List.Perm.of_eq (List.map_id _))
  · intro devId absent
    rw [Recorder.recordAll_eq]
    apply Table.row?_afterAll_of_unseen
    rw [← devIds_ofUpdate request settings.policy now] at absent
    intro sighting inside same
    exact absent (List.mem_map.mpr ⟨sighting, inside, same⟩)

def observationOf (clientMac : String) (ssid : String) : Observation :=
  { clientMac
    location := { lat := .text "1", lng := .text "2", unc := none }
    name := none, os := none, manufacturer := none, ipv4 := none, ipv6 := none, seenTime := none
    ssid := some (.string ssid) }

def knownAndNew : Request :=
  { secret := "s", version := .v2_0, observationType := .devicesSeen, apMac := none
    observations := [observationOf "a" "Guest", observationOf "b" "Guest"] }

def knownTable : Table :=
  { rows := [(Sighting.ofUpdate ((observationOf "a" "Corp").toUpdate .omitEmpty none)
      (.ofMicroseconds 0)).firstRow] }

theorem knownAndNew_distinct :
    (knownAndNew.observations.map Observation.clientMac).Nodup := by
  decide

/-- The new device can be recorded before the known one. -/
theorem batch_recorded_in_any_order_reversed :
    knownTable.Keyed ∧ (knownAndNew.observations.map Observation.clientMac).Nodup ∧
      let recorder : Recorder := { table := knownTable, now := .ofMicroseconds 1000000 }
      let updates := knownAndNew.updates .omitEmpty
      (recorder.recordAll updates.reverse).table.Agree (recorder.recordAll updates).table := by
  have keyed : knownTable.Keyed := List.nodup_singleton _
  let settings : Webhook.Settings :=
    { validator := "v", secret := "s", path := "/hook", policy := .omitEmpty }
  let delivery : Webhook.Delivery :=
    { traceId := "t", ingressTime := .zero false, normalizerTime := .zero false, body := [] }
  obtain ⟨anyOrder, _, _⟩ := batch_recorded_in_any_order knownTable keyed (.ofMicroseconds 1000000)
    settings delivery knownAndNew knownAndNew_distinct
  exact ⟨keyed, knownAndNew_distinct, anyOrder _ (List.reverse_perm _)⟩

end PresenceGateway.Tracker
