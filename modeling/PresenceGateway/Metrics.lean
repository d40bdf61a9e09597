/-!
What the program counts.
-/
namespace PresenceGateway

inductive Metric where
  | ingress (result : String)
  | rejected (reason : String)
  | observations (type : String)
  | dispatch (result : String)
  | refresh (domain result : String)
  | acknowledged (method : String)
deriving DecidableEq

namespace Metric

def labelled (name : String) (labels : List (String × String)) : String :=
  name ++ "\x7b"
    ++ String.intercalate "," (labels.map fun label => label.1 ++ "=\"" ++ label.2 ++ "\"")
    ++ "\x7d"

def text : Metric → String
  | ingress result => labelled "meraki_ingress_total" [("result", result)]
  | rejected reason => labelled "meraki_rejected_total" [("reason", reason)]
  | observations type => labelled "meraki_observations_total" [("type", type)]
  | dispatch result => labelled "presence_dispatch_total" [("result", result)]
  | refresh domain result =>
    labelled "nas_refresh_total" [("domain", domain), ("result", result)]
  | acknowledged method => labelled "webhook_ack_latency_seconds_count" [("method", method)]

end Metric

abbrev Metrics := List (Metric × Nat)

namespace Metrics

def total (metrics : Metrics) (metric : Metric) : Nat :=
  ((metrics.filter fun entry => entry.1 = metric).map (·.2)).foldl Nat.add 0

theorem total_cons (entry : Metric × Nat) (rest : Metrics) (metric : Metric) :
    total (entry :: rest) metric = (if entry.1 = metric then entry.2 else 0) + total rest metric := by
  have sums (amounts : List Nat) : amounts.foldl Nat.add 0 = amounts.sum := List.sum_eq_foldl.symm
  unfold total
  rw [sums, sums]
  by_cases same : entry.1 = metric
  · simp [same]
  · simp [same]

def grown (metrics : Metrics) : List (Metric × Nat) :=
  (metrics.map (·.1)).eraseDups.filterMap fun metric =>
    if metrics.total metric = 0 then none else some (metric, metrics.total metric)

end Metrics

end PresenceGateway
