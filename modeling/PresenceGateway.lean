import PresenceGateway.Main
import PresenceGateway.Nas.Script
import PresenceGateway.Proofs.Decimal.Rounding
import PresenceGateway.Proofs.Json.Truth
import PresenceGateway.Proofs.Sequencing
import PresenceGateway.Proofs.Dispatch.Accounting
import PresenceGateway.Proofs.Payload.Acceptance
import PresenceGateway.Proofs.Dispatch.Completion
import PresenceGateway.Proofs.Nas.Plan
import PresenceGateway.Proofs.Nas.Sessions
import PresenceGateway.Proofs.Json.Strings
import PresenceGateway.Proofs.Json.Members
import PresenceGateway.Proofs.Json.MergePatch
import PresenceGateway.Proofs.Json.Writing
import PresenceGateway.Proofs.Json.Overriding
import PresenceGateway.Proofs.Tracker.Batches
import PresenceGateway.Proofs.Time.Writing
import PresenceGateway.Proofs.Tracker.Rows
import PresenceGateway.Proofs.Tracker.Attributes
import PresenceGateway.Proofs.Presence.Attributes
import PresenceGateway.Proofs.Dispatch.Draining
import PresenceGateway.Proofs.Webhook.Submissions
import PresenceGateway.Proofs.Webhook.Secrecy
import PresenceGateway.Proofs.Url.Form
import PresenceGateway.Proofs.Dsm.Secrecy
import PresenceGateway.Proofs.Decimal.Shortest
import PresenceGateway.Proofs.Json.Doubles
import PresenceGateway.Proofs.Json.Nesting
import PresenceGateway.Proofs.Payload.Reports
import PresenceGateway.Proofs.Tracker.Pipeline
import PresenceGateway.Proofs.Dsm.Session
import PresenceGateway.Proofs.Webhook.Traffic
import PresenceGateway.Proofs.Webhook.Balance
import PresenceGateway.Proofs.Nas.Registry
import PresenceGateway.Proofs.Presence.Normalization
import PresenceGateway.Proofs.Gateway.Serving
import PresenceGateway.Proofs.Dispatch.Starting
import PresenceGateway.Proofs.Dsm.Envelopes
import PresenceGateway.Proofs.Dsm.Places
import PresenceGateway.Proofs.Dsm.Destinations
import PresenceGateway.Proofs.Dsm.Refusals
import PresenceGateway.Proofs.Nas.Attempts
import PresenceGateway.Proofs.Nas.Refreshes
import PresenceGateway.Proofs.Nas.Schedule
import PresenceGateway.Proofs.Nas.Entries
import PresenceGateway.Proofs.Nas.Coordinators
import PresenceGateway.Proofs.Payload.Edits
import PresenceGateway.Proofs.Dsm.Queries
import PresenceGateway.Proofs.Dsm.Bases
import PresenceGateway.Proofs.Tracker.Listing
import PresenceGateway.Proofs.Presence.Accuracy
import PresenceGateway.Proofs.Presence.Policies
import PresenceGateway.Proofs.Config.Changes
import PresenceGateway.Proofs.Tap.Filters
