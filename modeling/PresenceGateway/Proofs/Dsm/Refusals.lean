import PresenceGateway.Proofs.Dsm.Envelopes
import PresenceGateway.Proofs.Dsm.Session
import PresenceGateway.Proofs.Nas.Seconds
/-!
Refused logins. A station refuses a login with an envelope that says so and gives a code. The envelope
is read as a whole, with the data of a success, before anything is made of it. So a refusal is taken for
one exactly when everything in the envelope that has a type can be read, and otherwise for a fault of
the connection.
-/
namespace PresenceGateway.Dsm

open Json (Tree StringUnits)
open Nas (NasError)

/-! ### Replies that refuse -/

/-- The members of a reply say that the login failed, with the code of an error object. -/
structure Refuses (members fields : List (StringUnits × Tree)) (numeral : Numeral) (code : Int) :
    Prop where
  failed : .bool false ∈ called "success" members
  error : .object fields ∈ called "error" members
  coded : .number numeral ∈ called "code" fields
  denotes : numeral.Denotes code
  isCode : IsCode code

/-- Nothing stands in the way of reading a refusal: no member that counts is there twice, the code is
written as an integer, and the data of a login is left out, null or readable. -/
structure Legible (members fields : List (StringUnits × Tree)) (numeral : Numeral) : Prop where
  spelled : Spelled members
  success : called "success" members = [.bool false]
  data : called "data" members = [] ∨ called "data" members = [.null] ∨
    ∃ tree sid, called "data" members = [tree] ∧ GivesId tree sid
  error : called "error" members = [.object fields]
  fieldsSpelled : Spelled fields
  coded : called "code" fields = [.number numeral]
  integral : numeral.Integral

section Refusals

variable {members fields : List (StringUnits × Tree)} {numeral : Numeral} {code : Int}

theorem GivesId.ne_null {tree : Tree} {sid : String} (gives : GivesId tree sid) : tree ≠ .null := by
  cases gives with
  | placed => exact Tree.noConfusion
  | called => exact Tree.noConfusion

theorem offers_sessionId_iff {levels : Nat} {held : List Tree} :
    (∃ data, Offers (Read.sessionId (levels + 1)) held data) ↔
      held = [] ∨ held = [.null] ∨ ∃ tree sid, held = [tree] ∧ GivesId tree sid := by
  constructor
  · intro offered
    obtain ⟨data, offers⟩ := offered
    cases offers with
    | absent => exact .inl rfl
    | null => exact .inr (.inl rfl)
    | given present given => exact .inr (.inr ⟨_, _, rfl, Read.sessionId_eq_some_iff.mp given⟩)
  · intro forms
    rcases forms with rfl | rfl | ⟨tree, sid, rfl, gives⟩
    · exact ⟨none, .absent⟩
    · exact ⟨none, .null⟩
    · exact ⟨some sid, .given gives.ne_null (Read.sessionId_eq_some_iff.mpr gives)⟩

/-- An error object that gives this code and from which a code is read. -/
theorem givesCode_unique {value : Int} (refuses : Refuses members fields numeral code)
    (gives : GivesCode fields value) :
    called "code" fields = [.number numeral] ∧ numeral.Integral ∧ value = code := by
  obtain ⟨_, other, once, integral, denotes, _⟩ := gives
  have same := refuses.coded
  rw [once, List.mem_singleton] at same
  cases same
  have here := (Numeral.denotes_iff_of_isPlain integral.1).mp denotes
  have there := (Numeral.denotes_iff_of_isPlain integral.1).mp refuses.denotes
  exact ⟨once, integral, here.symm.trans there⟩

/-- What is read off a refusal: that it is one, and its code. -/
theorem envelope_of_refuses (refuses : Refuses members fields numeral code) {levels : Nat}
    {answer : Envelope String}
    (read : Read.envelope Read.sessionId (levels + 2) (.object members) = some answer) :
    Legible members fields numeral ∧ answer.success = false ∧ answer.code = some code := by
  obtain ⟨success, data, found⟩ := answer
  obtain ⟨spelled, flagged, offersData, offersCode⟩ := Read.envelope_object.mp read
  have failed := refuses.failed
  rw [flagged, List.mem_singleton] at failed
  cases failed
  have error := refuses.error
  dsimp only at offersCode
  cases errors : called "error" members with
  | nil =>
      rw [errors] at error
      cases error
  | cons tree rest =>
      rw [errors] at error offersCode
      cases offersCode with
      | null => cases List.mem_singleton.mp error
      | given present given =>
          cases List.mem_singleton.mp error
          have gives := Read.code_object.mp given
          obtain ⟨once, integral, rfl⟩ := givesCode_unique refuses gives
          exact ⟨⟨spelled, flagged, offers_sessionId_iff.mp ⟨_, offersData⟩, errors, gives.1, once,
            integral⟩, rfl, rfl⟩

theorem envelope_of_legible (refuses : Refuses members fields numeral code)
    (legible : Legible members fields numeral) {levels : Nat} :
    ∃ answer, Read.envelope Read.sessionId (levels + 2) (.object members) = some answer := by
  obtain ⟨data, offersData⟩ := (@offers_sessionId_iff levels _).mpr legible.data
  have gives : GivesCode fields code :=
    ⟨legible.fieldsSpelled, numeral, legible.coded, legible.integral, refuses.denotes,
      refuses.isCode⟩
  have offersCode : Offers (Read.code (levels + 1)) (called "error" members) (some code) := by
    rw [legible.error]
    exact .given Tree.noConfusion (Read.code_object.mpr gives)
  exact ⟨⟨false, data, some code⟩,
    Read.envelope_object.mpr ⟨legible.spelled, legible.success, offersData, offersCode⟩⟩

end Refusals

/-! ### Logins that are answered -/

namespace Client

/-- A setup discovers the login interface, and its login is answered. -/
def AnswersLogin (client : Client) (state : State) (status : Nat) (body : List UInt8) : Prop :=
  ∃ apis url rest, client.Discovers state.wire apis ∧
    client.Asks (client.discovered state apis).session (client.question .setup) url ∧
    url.hasHost = true ∧
    (client.discovered state apis).wire.replies = .response status body :: rest

def undecodable : NasError :=
  .connection ("http error: " ++ undecodableText)

section Logins

variable {client : Client} {state : State} {status : Nat} {body : List UInt8}
  {members fields : List (StringUnits × Tree)} {numeral : Numeral} {code : Int}

theorem setup_of_answersLogin (answers : client.AnswersLogin state status body) :
    (client.setup state).1 =
      inform ((loginResult ((told Read.sessionId status body).bind (unwrap "" authApi))).map
        fun _ => ()) := by
  obtain ⟨apis, url, rest, discovers, asks, host, replies⟩ := answers
  have login : (client.login (client.discovered state apis)).1 =
      loginResult ((told Read.sessionId status body).bind (unwrap "" authApi)) := by
    have request := client.request_of_asks Read.sessionId "" asks
    rw [get_answered Read.sessionId host replies] at request
    exact congrArg (fun answered : Except Error String × State => loginResult answered.1) request
  rw [setup_of_discovers discovers, login]
  cases loginResult ((told Read.sessionId status body).bind (unwrap "" authApi)) <;> rfl

theorem setup_of_legible (answers : client.AnswersLogin state status body)
    (success : 200 ≤ status ∧ status < 300) (parsed : Tree.read? body = some (.object members))
    (refuses : Refuses members fields numeral code) (legible : Legible members fields numeral) :
    (client.setup state).1 = .error (.auth (describeAuthError code)) := by
  obtain ⟨answer, read⟩ := @envelope_of_legible _ _ _ _ refuses legible 125
  obtain ⟨_, failed, coded⟩ := envelope_of_refuses refuses read
  have decoded : Read.body (Read.envelope Read.sessionId) body = some answer := by
    rw [Read.body, parsed]
    exact read
  rw [setup_of_answersLogin answers, told, if_pos success, decoded]
  change inform ((loginResult (unwrap "" authApi answer)).map fun _ => ()) = _
  rw [unwrap, failed, coded]
  rfl

theorem setup_of_illegible (answers : client.AnswersLogin state status body)
    (success : 200 ≤ status ∧ status < 300) (parsed : Tree.read? body = some (.object members))
    (refuses : Refuses members fields numeral code) (illegible : ¬ Legible members fields numeral) :
    (client.setup state).1 = .error undecodable := by
  have undecoded : Read.body (Read.envelope Read.sessionId) body = none := by
    rw [Read.body, parsed]
    cases read : Read.envelope Read.sessionId Json.maxDepth (.object members) with
    | none => exact read
    | some answer => exact absurd (@envelope_of_refuses _ _ _ _ refuses 125 _ read).1 illegible
  rw [setup_of_answersLogin answers, told, if_pos success, undecoded]
  rfl

/-- A setup whose login fails with a cause ends with it, a setup of an entry with what it stands for, and
the supervisor with what it makes of that, however long the login took. -/
structure FailsWith (client : Client) (state : State) (cause : NasError) : Prop where
  setup : (client.setup state).1 = .error cause
  entry : ∀ entry, ((Nas.setupEntry entry ()).run client.api state).1.2 =
    .error (.ofNasError cause)
  supervisor : ∀ duration (s : Nas.Supervisor Unit State), s.world = state →
    s.phase = .waiting s.upcoming →
    (s.seconds client.api duration (duration .setup state + 1)).phase =
      Nas.Supervisor.failedPhase (s.upcoming + duration .setup state) (.ofNasError cause)

theorem failsWith_iff {cause : NasError} :
    client.FailsWith state cause ↔ (client.setup state).1 = .error cause := by
  constructor
  · exact FailsWith.setup
  · intro failed
    refine ⟨failed, fun entry => ?_, fun duration s here due => ?_⟩
    · rw [Nas.setupEntry_eq]
      change ((Nas.Setup.answered entry.migrated () (client.setup state).1).run client.api
        (client.setup state).2).1.2 = _
      rw [failed]
      rfl
    · subst here
      exact Nas.Supervisor.seconds_failed_login due failed

/-- A login that is refused is reported as such, and ends the attempts of the supervisor, exactly when the
reply can be read as a whole. Otherwise it is taken for a fault of the connection, and is tried again. -/
theorem refusal_reported_iff_legible (answers : client.AnswersLogin state status body)
    (success : 200 ≤ status ∧ status < 300) (parsed : Tree.read? body = some (.object members))
    (refuses : Refuses members fields numeral code) :
    (client.FailsWith state (.auth (describeAuthError code)) ↔ Legible members fields numeral) ∧
      (client.FailsWith state undecodable ↔ ¬ Legible members fields numeral) := by
  rw [failsWith_iff, failsWith_iff]
  by_cases legible : Legible members fields numeral
  · rw [setup_of_legible answers success parsed refuses legible]
    exact ⟨iff_of_true rfl legible, iff_of_false (fun same => by cases same) (not_not_intro legible)⟩
  · rw [setup_of_illegible answers success parsed refuses legible]
    exact ⟨iff_of_false (fun same => by cases same) legible, iff_of_true rfl legible⟩

/-- A station below whose base the login is found answers it with the reply after its table. -/
theorem answersLogin_of_replies {segments : List String} {path : String} {rest : List Reply}
    (web : client.base.scheme ≠ "file") (below : client.base.path = .segments segments)
    (host : client.base.hasHost = true) (relative : Url.isRelative path = true)
    (listed : Read.body (Read.envelope Read.descriptors) (loginTable path) =
      some { success := true, data := some (loginAt path), code := none })
    (replies : state.wire.replies =
      .response 200 (loginTable path) :: .response status body :: rest) :
    client.AnswersLogin state status body := by
  obtain ⟨later, discovered, left⟩ := discover_of_reply web below host replies listed
  obtain ⟨place, reached, same⟩ := place_of_below web below
    (show Url.isRelative (Descriptor.path ⟨path, 6⟩) = true from relative)
  refine ⟨loginAt path, _, rest, ?_, ⟨_, place, rfl, reached, rfl⟩, ?_, ?_⟩
  · exact client.discover_eq_ok_iff.mp (congrArg Prod.fst discovered)
  · exact same.hasHost.trans host
  · rw [Client.discovered, discovered]
    exact left

private def doorStation : Client :=
  station "admin" "wrong"

private def doorReply (more : Json.Members) : List UInt8 :=
  Text.Utf8.encode (Json.Value.text
    (.object (more ++ [("error", .object [("code", .ofNat 400)]), ("success", .bool false)])))

private theorem doorStation_answers (body : List UInt8) :
    doorStation.AnswersLogin (fresh [.response 200 (loginTable "auth.cgi"), .response 200 body]) 200
      body :=
  answersLogin_of_replies (station_web _ _) (show doorStation.base.path = .segments [""] from rfl)
    rfl (by decide) read_loginTable_of_plain_path rfl

private def written (text : String) : StringUnits :=
  (Text.Utf8.encode text).map .byte

private def doorCode : Numeral :=
  { negative := false, whole := [4, 0, 0], fraction := [], exponent := none }

private def doorFields : List (StringUnits × Tree) :=
  [(written "code", .number doorCode)]

private def doorMembers (more : List (StringUnits × Tree)) : List (StringUnits × Tree) :=
  more ++ [(written "error", .object doorFields), (written "success", .bool false)]

private theorem doorCode_called : called "code" doorFields = [.number doorCode] := by
  cbv

private theorem doorMembers_refuses {more : List (StringUnits × Tree)}
    (failed : called "success" (doorMembers more) = [.bool false])
    (error : called "error" (doorMembers more) = [.object doorFields]) :
    Refuses (doorMembers more) doorFields doorCode 400 := by
  constructor
  · rw [failed]
    exact List.mem_singleton_self _
  · rw [error]
    exact List.mem_singleton_self _
  · rw [doorCode_called]
    exact List.mem_singleton_self _
  · exact (show (400 : Int) * 10 ^ 0 = 400 * 10 ^ 0 from rfl)
  · exact (show -0x8000000000000000 ≤ (400 : Int) ∧ (400 : Int) ≤ 0x7FFFFFFFFFFFFFFF by decide)

/-- A refusal and nothing else is reported. -/
theorem refusal_reported_without_data :
    doorStation.FailsWith (fresh [.response 200 (loginTable "auth.cgi"), .response 200 (doorReply [])])
      (.auth "invalid credentials") := by
  have failed : called "success" (doorMembers []) = [.bool false] := by
    cbv
  have error : called "error" (doorMembers []) = [.object doorFields] := by
    cbv
  have parsed : Tree.read? (doorReply []) = some (.object (doorMembers [])) := by
    cbv
  have spelled := (@mapM_text_eq_some_iff (doorMembers []) _).mp
    (show _ = some [("error", Tree.object doorFields), ("success", .bool false)] by cbv)
  have fieldsSpelled := (@mapM_text_eq_some_iff doorFields _).mp
    (show _ = some [("code", Tree.number doorCode)] by cbv)
  have legible : Legible (doorMembers []) doorFields doorCode :=
    { spelled := spelled.1
      success := failed
      data := .inl (by cbv)
      error := error
      fieldsSpelled := fieldsSpelled.1
      coded := doorCode_called
      integral := ⟨rfl, fun both => Bool.noConfusion both.1⟩ }
  exact (refusal_reported_iff_legible (doorStation_answers _) ⟨by decide, by decide⟩ parsed
    (doorMembers_refuses failed error)).1.mpr legible

/-- A refusal with an empty object for its data is taken for a fault of the connection. -/
theorem refusal_with_data_not_reported :
    ∃ members fields numeral body,
      Tree.read? body = some (.object members) ∧ Refuses members fields numeral 400 ∧
        doorStation.AnswersLogin (fresh [.response 200 (loginTable "auth.cgi"), .response 200 body])
          200 body ∧
        (doorStation.setup
          (fresh [.response 200 (loginTable "auth.cgi"), .response 200 body])).1 ≠
          .error (.auth (describeAuthError 400)) := by
  have failed : called "success" (doorMembers [(written "data", .object [])]) = [.bool false] := by
    cbv
  have error : called "error" (doorMembers [(written "data", .object [])]) = [.object doorFields] := by
    cbv
  have data : called "data" (doorMembers [(written "data", .object [])]) = [.object []] := by
    cbv
  have parsed : Tree.read? (doorReply [("data", .object [])]) =
      some (.object (doorMembers [(written "data", .object [])])) := by
    cbv
  have refuses := doorMembers_refuses failed error
  have illegible : ¬ Legible (doorMembers [(written "data", .object [])]) doorFields doorCode := by
    intro legible
    have forms := legible.data
    rw [data] at forms
    rcases forms with none | null | ⟨tree, sid, same, gives⟩
    · cases none
    · cases null
    · cases same
      cases gives with
      | called spelled once text =>
          cases (show called "sid" [] = [] from rfl).symm.trans once
  refine ⟨_, _, _, _, parsed, refuses, doorStation_answers _, ?_⟩
  rw [setup_of_illegible (doorStation_answers _) ⟨by decide, by decide⟩ parsed refuses illegible]
  exact fun same => by cases same

end Logins

end Client

end PresenceGateway.Dsm
