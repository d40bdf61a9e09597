import PresenceGateway.Dsm.Client
import PresenceGateway.Proofs.Url.Form
/-!
What comes of a request to a station. One that is answered tells nothing about its address. What is
said of one that cannot be sent or is not answered names the address, and so all the pairs in it.
-/
namespace PresenceGateway.Dsm

/-! ### Requests -/

/-- Whether a request is sent and the next reply is a response. -/
def Wire.Answers (wire : Wire) (url : Url) : Prop :=
  url.hasHost = true ∧ ∃ status body rest, wire.replies = .response status body :: rest

theorem Wire.answers_appendPairs (wire : Wire) (place : Url) (pairs : List (String × String)) :
    wire.Answers (place.appendPairs pairs) ↔ wire.Answers place := Iff.rfl

def lossText (url : Url) : String :=
  if url.hasHost then unansweredText url else notWebText url

theorem lostText_ne_notWebText (url other : Url) : lostText url ≠ notWebText other := by
  have front (first rest last : String) (c : Char) (here : first.toList.head? = some c) :
      (first ++ rest ++ last).toList.head? = some c := by
    rw [String.toList_append, String.toList_append, List.head?_append, List.head?_append, here,
      Option.some_or, Option.some_or]
  intro same
  have lost := front "error sending request for url (" url.withoutUser.text ")" 'e' (by decide)
  have refused := front "builder error for url (" other.withoutUser.text ")" 'b' (by decide)
  have clash := lost.symm.trans ((congrArg (fun text => text.toList.head?) same).trans refused)
  exact absurd clash (by decide)

section Texts

variable {place : Url} {pairs other : List (String × String)}

theorem text_between_injective (before after : String)
    (same : before ++ (place.appendPairs pairs).withoutUser.text ++ after =
      before ++ (place.appendPairs other).withoutUser.text ++ after) : pairs = other := by
  rw [String.append_left_inj, String.append_right_inj] at same
  exact @Url.appendPairs_text_injective place.withoutUser _ _ same

/-- What is said of a lost request tells what was asked. -/
theorem lossText_injective
    (same : lossText (place.appendPairs pairs) = lossText (place.appendPairs other)) :
    pairs = other := by
  unfold lossText unansweredText at same
  rw [Url.hasHost_appendPairs, Url.hasHost_appendPairs] at same
  -- Whether a request can be sent at all may depend on its pairs, since they make it longer.
  split at same
  · split at same
    · split at same
      · exact text_between_injective _ _ same
      · exact absurd same (lostText_ne_notWebText _ _)
    · split at same
      · exact absurd same.symm (lostText_ne_notWebText _ _)
      · exact text_between_injective _ _ same
  · exact text_between_injective _ _ same

end Texts

section Requests

variable {Data : Type} (read : Read.Reader Data) {wire wireToo : Wire} {url : Url}

def told (status : Nat) (body : List UInt8) : Except Error (Envelope Data) :=
  if 200 ≤ status ∧ status < 300 then
    match Read.body (Read.envelope read) body with
    | some envelope => .ok envelope
    | none => .error (.http undecodableText)
  else .error (.status status (Text.Utf8.decodeLossy body))

theorem get_answered {status : Nat} {body : List UInt8} {rest : List Reply}
    (host : url.hasHost = true) (replies : wire.replies = .response status body :: rest) :
    (get read url wire).1 = told read status body := by
  unfold get Wire.exchange told
  rw [if_pos host, replies]
  dsimp only
  split
  · cases Read.body (Read.envelope read) body <;> rfl
  · rfl

theorem get_lost (lost : ¬ wire.Answers url) :
    (get read url wire).1 = .error (.http (lossText url)) := by
  unfold get lossText Wire.exchange
  by_cases host : url.hasHost = true
  · rw [if_pos host, if_pos host]
    cases replies : wire.replies with
    | nil => rfl
    | cons reply rest =>
        cases reply with
        | lost => rfl
        | response status body => exact absurd ⟨host, status, body, rest, replies⟩ lost
  · rw [if_neg host, if_neg host]

theorem get_replies :
    (get read url wire).2.replies = if url.hasHost then wire.replies.tail else wire.replies := by
  unfold get Wire.exchange
  split
  · cases wire.replies with
    | nil => rfl
    | cons reply rest =>
        cases reply with
        | lost => rfl
        | response status body =>
            dsimp only
            split
            · split <;> rfl
            · rfl
  · rfl

theorem get_alike (sameReplies : wire.replies = wireToo.replies) :
    (get read url wire).1 = (get read url wireToo).1 := by
  by_cases answers : wire.Answers url
  · obtain ⟨host, status, body, rest, replies⟩ := answers
    rw [get_answered read host replies, get_answered read host (sameReplies ▸ replies)]
  · have unanswered : ¬ wireToo.Answers url := by
      rwa [Wire.Answers, ← sameReplies]
    rw [get_lost read answers, get_lost read unanswered]

end Requests

/-! ### Calls -/

/-- Two states that go on alike. What was sent before makes no difference. -/
structure State.Alike (state other : State) : Prop where
  session : state.session = other.session
  replies : state.wire.replies = other.wire.replies

namespace Client

def place (client : Client) (descriptor : Descriptor) : Except UrlError Url := do
  let folder ← client.base.join "webapi/"
  folder.join descriptor.path

theorem url_eq (client : Client) (call : Call) :
    call.url client.base =
      (client.place call.descriptor).map fun place => place.appendPairs call.pairs := by
  unfold Call.url place
  cases client.base.join "webapi/" with
  | error cause => rfl
  | ok folder => cases folder.join call.descriptor.path <;> rfl

/-- Whether a call of an interface sends a request that is not answered. -/
def LosesRequest (client : Client) (api : String) (state : State) : Prop :=
  ∃ descriptor place, state.session.descriptor? api = some descriptor ∧
    client.place descriptor = .ok place ∧ ¬ state.wire.Answers place

section Calls

variable (client : Client) {state other : State}

section Requests

variable {Data : Type} (read : Read.Reader Data) (default : Data) (api method : String)

theorem request_unknown (params : List (String × String))
    (unknown : state.session.descriptor? api = none) :
    client.request read default api method params state = (.error (.unknownApi api), state) := by
  rw [request, unknown]

section Known

variable {descriptor : Descriptor} (params : List (String × String))
  (found : state.session.descriptor? api = some descriptor)

include found

theorem request_of_no_place {cause : UrlError} (unplaced : client.place descriptor = .error cause) :
    client.request read default api method params state = (.error (.url cause), state) := by
  rw [request, found]
  dsimp only
  rw [url_eq]
  dsimp only
  rw [unplaced]
  rfl

theorem request_of_place {place : Url} (reached : client.place descriptor = .ok place) :
    client.request read default api method params state =
      let url := place.appendPairs
        (Call.pairs { api, descriptor, method, params, sid := state.session.sid })
      ((get read url state.wire).1.bind (unwrap default api),
        { state with wire := (get read url state.wire).2 }) := by
  rw [request, found]
  dsimp only
  rw [url_eq]
  dsimp only
  rw [reached]
  rfl

end Known

theorem request_later (params paramsToo : List (String × String)) (alike : state.Alike other) :
    (client.request read default api method params state).2.Alike
      (client.request read default api method paramsToo other).2 := by
  cases found : state.session.descriptor? api with
  | none =>
      have foundToo := alike.session ▸ found
      rw [client.request_unknown read default api method params found,
        client.request_unknown read default api method paramsToo foundToo]
      exact alike
  | some descriptor =>
      have foundToo := alike.session ▸ found
      cases reached : client.place descriptor with
      | error cause =>
          rw [client.request_of_no_place read default api method params found reached,
            client.request_of_no_place read default api method paramsToo foundToo reached]
          exact alike
      | ok place =>
          rw [client.request_of_place read default api method params found reached,
            client.request_of_place read default api method paramsToo foundToo reached]
          refine ⟨alike.session, ?_⟩
          dsimp only
          rw [get_replies, get_replies, Url.hasHost_appendPairs, Url.hasHost_appendPairs,
            alike.replies]

theorem request_answered {params paramsToo : List (String × String)} (alike : state.Alike other)
    (answered : ¬ client.LosesRequest api state) :
    (client.request read default api method params state).1 =
      (client.request read default api method paramsToo other).1 := by
  cases found : state.session.descriptor? api with
  | none =>
      have foundToo := alike.session ▸ found
      rw [client.request_unknown read default api method params found,
        client.request_unknown read default api method paramsToo foundToo]
  | some descriptor =>
      have foundToo := alike.session ▸ found
      cases reached : client.place descriptor with
      | error cause =>
          rw [client.request_of_no_place read default api method params found reached,
            client.request_of_no_place read default api method paramsToo foundToo reached]
      | ok place =>
          by_cases answers : state.wire.Answers place
          · obtain ⟨host, status, body, rest, replies⟩ := answers
            rw [client.request_of_place read default api method params found reached,
              client.request_of_place read default api method paramsToo foundToo reached]
            dsimp only
            rw [get_answered read ((Url.hasHost_appendPairs place _).trans host) replies,
              get_answered read ((Url.hasHost_appendPairs place _).trans host)
                (alike.replies ▸ replies)]
          · exact absurd ⟨descriptor, place, found, reached, answers⟩ answered

theorem request_lost (lost : client.LosesRequest api state) :
    ∃ (place : Url) (before after : List (String × String)), ∀ params later, state.Alike later →
      (client.request read default api method params later).1 =
        .error (.http (lossText (place.appendPairs (before ++ params ++ after)))) := by
  obtain ⟨descriptor, place, found, reached, unanswered⟩ := lost
  refine ⟨place, [("api", api), ("version", toString descriptor.maxVersion), ("method", method)],
    (state.session.sid.map fun sid => ("_sid", sid)).toList, fun params later alike => ?_⟩
  have foundToo : later.session.descriptor? api = some descriptor := alike.session ▸ found
  have unansweredToo : ¬ later.wire.Answers place := by
    rwa [Wire.Answers, ← alike.replies]
  rw [client.request_of_place read default api method params foundToo reached]
  dsimp only
  rw [get_lost read (mt (Wire.answers_appendPairs _ _ _).mp unansweredToo), ← alike.session]
  rfl

theorem request_alike (params : List (String × String)) (alike : state.Alike other) :
    (client.request read default api method params state).2.Alike
        (client.request read default api method params other).2 ∧
      (client.request read default api method params state).1 =
        (client.request read default api method params other).1 := by
  refine ⟨client.request_later read default api method params params alike, ?_⟩
  by_cases lost : client.LosesRequest api state
  · obtain ⟨place, before, after, said⟩ := client.request_lost read default api method lost
    rw [said params state ⟨rfl, rfl⟩, said params other alike]
  · exact client.request_answered read default api method alike lost

end Requests

theorem discover_alike (alike : state.Alike other) :
    ∃ found wire wireToo, client.discover state.wire = (found, wire) ∧
      client.discover other.wire = (found, wireToo) ∧ wire.replies = wireToo.replies := by
  refine ⟨_, _, (client.discover other.wire).2, rfl, ?_⟩
  unfold discover
  cases client.discoveryUrl with
  | error cause => exact ⟨rfl, alike.replies⟩
  | ok url =>
      dsimp only
      rw [get_alike Read.descriptors alike.replies, get_replies, get_replies, alike.replies]
      exact ⟨rfl, rfl⟩

end Calls

end Client

end PresenceGateway.Dsm
