import PresenceGateway.Proofs.Dsm.Places
import PresenceGateway.Proofs.Dsm.Session
/-!
Where credentials and session ids go. The requests of a run are those of its discoveries and those to
the interfaces that its calls go to. The first are below the base. So everything stays at the site of the
base exactly when no call goes to an interface whose path leads away from it.
-/
namespace PresenceGateway.Dsm.Client

open Url (namesSite)

variable {client : Client} {state : State} {url : Url}

/-! ### The requests of a call -/

/-- The session in which a call asks its question, if it comes to that. A setup asks after a
discovery, and an unload only when there is a session to close. -/
def AsksIn (client : Client) (state : State) : Nas.Call → Session → Prop
  | .setup, held => ∃ apis, client.Discovers state.wire apis ∧
      held = (client.discovered state apis).session
  | .unload, held => held = state.session ∧ held.sid ≠ none
  | _, held => held = state.session

/-- The requests that a call makes. They are sent when they have a host. -/
def Requests (client : Client) (state : State) (what : Nas.Call) (url : Url) : Prop :=
  (what = .setup ∧ client.discoveryUrl = .ok url) ∨
    ∃ held, client.AsksIn state what held ∧ client.Asks held (client.question what) url

theorem mem_get_sent {Data : Type} (read : Read.Reader Data) (asked : Url) (wire : Wire) :
    url ∈ (get read asked wire).2.sent ↔
      url ∈ wire.sent ∨ (url = asked ∧ url.hasHost = true) := by
  rw [get_sent]
  by_cases host : asked.hasHost = true
  · rw [if_pos host, List.mem_append, List.mem_singleton]
    refine or_congr_right ⟨fun same => ⟨same, same ▸ host⟩, And.left⟩
  · rw [if_neg host]
    refine ⟨.inl, fun sent => sent.resolve_right ?_⟩
    rintro ⟨rfl, held⟩
    exact host held

theorem mem_request_sent {Data : Type} (read : Read.Reader Data) (default : Data)
    (asked : Question) :
    url ∈ (client.request read default asked.api asked.method asked.params state).2.wire.sent ↔
      url ∈ state.wire.sent ∨ (client.Asks state.session asked url ∧ url.hasHost = true) := by
  by_cases asks : ∃ other, client.Asks state.session asked other
  · obtain ⟨other, asks⟩ := asks
    rw [client.request_of_asks read default asks]
    refine (mem_get_sent read other state.wire).trans (or_congr_right ?_)
    constructor
    · rintro ⟨rfl, host⟩
      exact ⟨asks, host⟩
    · rintro ⟨asksToo, host⟩
      exact ⟨asksToo.unique asks, host⟩
  · obtain ⟨cause, refused⟩ := client.request_of_unasked read default (not_exists.mp asks)
    rw [refused]
    exact ⟨.inl, fun sent => sent.resolve_right fun asked => asks ⟨url, asked.1⟩⟩

theorem mem_discover_sent {wire : Wire} :
    url ∈ (client.discover wire).2.sent ↔
      url ∈ wire.sent ∨ (client.discoveryUrl = .ok url ∧ url.hasHost = true) := by
  unfold discover
  cases target : client.discoveryUrl with
  | error cause => simp
  | ok asked =>
      refine (mem_get_sent Read.descriptors asked wire).trans (or_congr_right ?_)
      rw [Except.ok.injEq, eq_comm]

theorem requests_setup_iff :
    client.Requests state .setup url ↔ client.discoveryUrl = .ok url ∨
      ∃ apis, client.Discovers state.wire apis ∧
        client.Asks (client.discovered state apis).session (client.question .setup) url := by
  unfold Requests AsksIn
  constructor
  · intro requests
    cases requests with
    | inl discovery => exact .inl discovery.2
    | inr login =>
        obtain ⟨held, ⟨apis, discovers, rfl⟩, asks⟩ := login
        exact .inr ⟨apis, discovers, asks⟩
  · intro requests
    cases requests with
    | inl discovery => exact .inl ⟨rfl, discovery⟩
    | inr login =>
        obtain ⟨apis, discovers, asks⟩ := login
        exact .inr ⟨_, ⟨apis, discovers, rfl⟩, asks⟩

theorem mem_setup_sent :
    url ∈ (client.setup state).2.wire.sent ↔
      url ∈ state.wire.sent ∨ (client.Requests state .setup url ∧ url.hasHost = true) := by
  rw [requests_setup_iff]
  by_cases found : ∃ apis, client.Discovers state.wire apis
  · obtain ⟨apis, discovers⟩ := found
    have login : (∃ other, client.Discovers state.wire other ∧
        client.Asks (client.discovered state other).session (client.question .setup) url) ↔
        client.Asks (client.discovered state apis).session (client.question .setup) url := by
      constructor
      · intro held
        obtain ⟨other, discoversToo, asks⟩ := held
        exact discovers.unique discoversToo ▸ asks
      · exact fun asks => ⟨apis, discovers, asks⟩
    rw [setup_of_discovers discovers, opened_wire, login, or_and_right, ← or_assoc]
    refine (mem_request_sent Read.sessionId "" (client.question .setup)).trans ?_
    exact or_congr_left mem_discover_sent
  · obtain ⟨cause, failed⟩ := setup_of_undiscovered (not_exists.mp found)
    have noLogin : ¬ ∃ other, client.Discovers state.wire other ∧
        client.Asks (client.discovered state other).session (client.question .setup) url :=
      fun login => found (login.imp fun _ held => held.1)
    rw [failed, or_iff_left noLogin]
    exact mem_discover_sent

theorem requests_of_plain {what : Nas.Call} (other : what ≠ .setup)
    (plain : client.AsksIn state what = (· = state.session)) :
    client.Requests state what url ↔ client.Asks state.session (client.question what) url := by
  rw [Requests, plain]
  constructor
  · intro requests
    obtain ⟨held, rfl, asks⟩ := requests.resolve_left fun discovery => other discovery.1
    exact asks
  · exact fun asks => .inr ⟨_, rfl, asks⟩

theorem mem_unload_sent :
    url ∈ (client.unload state).2.wire.sent ↔
      url ∈ state.wire.sent ∨ (client.Requests state .unload url ∧ url.hasHost = true) := by
  by_cases closed : state.session.sid = none
  · have nothing : ¬ client.Requests state .unload url := by
      intro requests
      obtain ⟨held, ⟨rfl, opened⟩, _⟩ := requests.resolve_left fun discovery => by cases discovery.1
      exact opened closed
    rw [unload_of_closed closed]
    exact (or_iff_left fun requests => nothing requests.1).symm
  · have opened : client.AsksIn state .unload = (· = state.session) := by
      funext held
      exact propext ⟨And.left, fun same => ⟨same, same ▸ closed⟩⟩
    rw [unload_wire_of_open closed, requests_of_plain (by simp) opened]
    exact mem_request_sent Read.value .null (client.question .unload)

theorem mem_call_sent {what : Nas.Call} :
    url ∈ (client.api.call () what state).2.wire.sent ↔
      url ∈ state.wire.sent ∨ (client.Requests state what url ∧ url.hasHost = true) := by
  cases what with
  | setup => exact mem_setup_sent
  | networkMacs =>
      rw [requests_of_plain (by simp) rfl]
      exact mem_request_sent Read.addresses [] (client.question .networkMacs)
  | fetch domain =>
      rw [requests_of_plain (by simp) rfl]
      exact mem_request_sent Read.value .null (client.question (.fetch domain))
  | setupSwitches =>
      rw [requests_of_plain (by simp) rfl]
      exact mem_request_sent Read.value .null (client.question .setupSwitches)
  | unload => exact mem_unload_sent

/-! ### Runs -/

/-- Something holds of one of some calls, in the state in which it is made. -/
def Occurs (client : Client) (event : State → Nas.Call → Prop) (state : State)
    (calls : List Nas.Call) : Prop :=
  ∃ before what later, calls = before ++ what :: later ∧ event (client.after state before) what

section Events

variable {event other : State → Nas.Call → Prop} {what : Nas.Call} {calls : List Nas.Call}

theorem not_occurs_nil : ¬ client.Occurs event state [] := by
  intro occurs
  obtain ⟨before, what, later, split, _⟩ := occurs
  exact absurd split.symm (List.append_ne_nil_of_right_ne_nil _ (List.cons_ne_nil _ _))

theorem occurs_cons :
    client.Occurs event state (what :: calls) ↔
      event state what ∨ client.Occurs event (client.api.call () what state).2 calls := by
  constructor
  · intro occurs
    obtain ⟨before, next, later, split, holds⟩ := occurs
    cases before with
    | nil =>
        cases split
        exact .inl holds
    | cons first before =>
        cases split
        exact .inr ⟨before, next, later, rfl, holds⟩
  · intro occurs
    cases occurs with
    | inl here => exact ⟨[], what, calls, rfl, here⟩
    | inr after =>
        obtain ⟨before, next, later, rfl, holds⟩ := after
        exact ⟨what :: before, next, later, rfl, holds⟩

end Events

/-- The requests of a run are those that its calls make. -/
theorem mem_after_sent {calls : List Nas.Call} :
    url ∈ (client.after state calls).wire.sent ↔
      url ∈ state.wire.sent ∨
        client.Occurs (fun held what => client.Requests held what url ∧ url.hasHost = true)
          state calls := by
  induction calls generalizing state with
  | nil => exact (or_iff_left not_occurs_nil).symm
  | cons what rest ih =>
      rw [occurs_cons, ← or_assoc, ← mem_call_sent]
      exact ih

/-! ### Where they go -/

theorem station_discovers (username password : String) {path : String}
    (listed : Read.body (Read.envelope Read.descriptors) (loginTable path) =
      some { success := true, data := some (loginAt path), code := none }) :
    (station username password).Discovers (fresh [.response 200 (loginTable path)]).wire
      (loginAt path) := by
  obtain ⟨later, discovered, _⟩ := discover_of_reply (station_web username password)
    (show (station username password).base.path = .segments [""] from rfl)
    (show (station username password).base.hasHost = true from rfl)
    (show (fresh [.response 200 (loginTable path)]).wire.replies = _ from rfl) listed
  exact (station username password).discover_eq_ok_iff.mp (congrArg Prod.fst discovered)

end PresenceGateway.Dsm.Client
