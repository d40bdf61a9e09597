import PresenceGateway.Proofs.Dsm.Places
import PresenceGateway.Proofs.Nas.Plan
/-!
Where a password shows. It is in the address of a login and nowhere else, and only what is said of a
request without an answer tells its address. So clients with different passwords cannot be told apart
until a login is lost, and then they can.
-/
namespace PresenceGateway.Dsm.Client

open Nas (NasError Program)

def withPassword (client : Client) (password : String) : Client :=
  { client with password }

theorem withPassword_self (client : Client) : client.withPassword client.password = client := rfl

/-- Whether a setup discovers the interfaces, and then logs in without being answered. -/
def LosesLogin (client : Client) (state : State) : Prop :=
  ∃ apis wire, client.discover state.wire = (.ok apis, wire) ∧
    client.LosesRequest authApi { session := { state.session with apis }, wire }

section TwoClients

variable (client : Client) {state other : State}

/-! ### Logins -/

theorem login_later (password : String) (alike : state.Alike other) :
    (client.login state).2.Alike ((client.withPassword password).login other).2 :=
  client.request_later Read.sessionId "" authApi "login" _ _ alike

theorem login_answered (password : String) (alike : state.Alike other)
    (answered : ¬ client.LosesRequest authApi state) :
    (client.login state).1 = ((client.withPassword password).login other).1 :=
  congrArg loginResult
    (client.request_answered Read.sessionId "" authApi "login" alike answered)

theorem login_lost (lost : client.LosesRequest authApi state) :
    ∃ (place : Url) (before after : List (String × String)), ∀ password later,
      state.Alike later → ((client.withPassword password).login later).1 =
        .error (.http (lossText (place.appendPairs (before ++ ("passwd", password) :: after)))) := by
  obtain ⟨place, before, after, said⟩ :=
    client.request_lost Read.sessionId "" authApi "login" lost
  refine ⟨place, before ++ [("account", client.username)],
    [("session", sessionName), ("format", "sid")] ++ after, fun password later alike => ?_⟩
  have here := said (client.withPassword password).loginParams later alike
  have pairs : before ++ (client.withPassword password).loginParams ++ after =
      before ++ [("account", client.username)] ++ ("passwd", password) ::
        ([("session", sessionName), ("format", "sid")] ++ after) := by
    simp [loginParams, withPassword]
  rw [pairs] at here
  exact congrArg loginResult here

def opened (answer : Except Error String) (state : State) : Except NasError Unit × State :=
  match answer with
  | .error cause => (.error cause.toNasError, state)
  | .ok sid => (.ok (), { state with session := { state.session with sid := some sid } })

theorem opened_alike (answer : Except Error String) (alike : state.Alike other) :
    (opened answer state).1 = (opened answer other).1 ∧
      (opened answer state).2.Alike (opened answer other).2 := by
  cases answer with
  | error cause => exact ⟨rfl, alike⟩
  | ok sid => exact ⟨rfl, by rw [opened, opened, alike.session], alike.replies⟩

theorem setup_undiscovered {cause : Error} {wire : Wire}
    (discovered : client.discover state.wire = (.error cause, wire)) :
    client.setup state = (.error cause.toNasError, { state with wire }) := by
  rw [setup, discovered]

theorem setup_discovered {apis : List (String × Descriptor)} {wire : Wire}
    (discovered : client.discover state.wire = (.ok apis, wire)) :
    client.setup state =
      opened (client.login { session := { state.session with apis }, wire }).1
        (client.login { session := { state.session with apis }, wire }).2 := by
  rw [setup, discovered]
  rfl

theorem setup_lost (lost : client.LosesLogin state) :
    ∃ (place : Url) (before after : List (String × String)), ∀ password later,
      state.Alike later → ((client.withPassword password).setup later).1 =
        .error (.connection ("http error: " ++ lossText
          (place.appendPairs (before ++ ("passwd", password) :: after)))) := by
  obtain ⟨apis, wire, discovered, lost⟩ := lost
  obtain ⟨place, before, after, said⟩ := client.login_lost lost
  refine ⟨place, before, after, fun password later alike => ?_⟩
  obtain ⟨found, _, wireToo, here, there, sameReplies⟩ := client.discover_alike alike
  rw [discovered] at here
  cases here
  rw [(client.withPassword password).setup_discovered there,
    said password _ ⟨by rw [alike.session], sameReplies⟩]
  rfl

theorem setup_alike (password : String) (alike : state.Alike other) :
    (client.setup state).2.Alike ((client.withPassword password).setup other).2 ∧
      (client.password = password ∨ ¬ client.LosesLogin state →
        (client.setup state).1 = ((client.withPassword password).setup other).1) := by
  obtain ⟨found, wire, wireToo, here, there, sameReplies⟩ := client.discover_alike alike
  cases found with
  | error cause =>
      rw [client.setup_undiscovered here,
        (client.withPassword password).setup_undiscovered there]
      exact ⟨⟨alike.session, sameReplies⟩, fun _ => rfl⟩
  | ok apis =>
      have before : State.Alike { session := { state.session with apis }, wire }
          { session := { other.session with apis }, wire := wireToo } :=
        ⟨by rw [alike.session], sameReplies⟩
      have after := client.login_later password before
      rw [client.setup_discovered here, (client.withPassword password).setup_discovered there]
      by_cases lost : client.LosesRequest authApi { session := { state.session with apis }, wire }
      · -- Both logins fail, with texts that differ in nothing but the password.
        obtain ⟨place, first, last, said⟩ := client.login_lost lost
        have saidHere := said client.password _ ⟨rfl, rfl⟩
        rw [withPassword_self] at saidHere
        rw [said password _ before, saidHere]
        refine ⟨after, fun hidden => ?_⟩
        have same := hidden.resolve_right (not_not_intro ⟨apis, wire, here, lost⟩)
        rw [same]
        rfl
      · rw [client.login_answered password before lost]
        obtain ⟨same, later⟩ := opened_alike
          ((client.withPassword password).login
            { session := { other.session with apis }, wire := wireToo }).1 after
        exact ⟨later, fun _ => same⟩

/-! ### Everything that can be asked -/

theorem call_alike (password : String) (what : Nas.Call) (alike : state.Alike other) :
    (client.api.call () what state).2.Alike
        ((client.withPassword password).api.call () what other).2 ∧
      (client.password = password ∨ ¬ (what = .setup ∧ client.LosesLogin state) →
        (client.api.call () what state).1 =
          ((client.withPassword password).api.call () what other).1) := by
  cases what with
  | setup =>
      obtain ⟨later, same⟩ := client.setup_alike password alike
      refine ⟨later, fun hidden => same (hidden.imp_right ?_)⟩
      exact fun kept lost => kept ⟨rfl, lost⟩
  | networkMacs =>
      obtain ⟨later, same⟩ := client.request_alike Read.addresses [] networkApi "list" [] alike
      exact ⟨later, fun _ => congrArg inform same⟩
  | fetch domain =>
      obtain ⟨later, same⟩ := client.request_alike Read.value .null (domainMethod domain).1
        (domainMethod domain).2 [] alike
      exact ⟨later, fun _ => congrArg inform same⟩
  | setupSwitches =>
      obtain ⟨later, same⟩ :=
        client.request_alike Read.value .null Nas.infoApi "GetInfo" [] alike
      exact ⟨later, fun _ => congrArg (fun answer : Except Error Json.Value =>
        inform (answer.map fun _ => ())) same⟩
  | unload =>
      obtain ⟨later, same⟩ := client.request_alike Read.value .null authApi "logout"
        [("session", sessionName)] alike
      dsimp only [api, unload]
      rw [← alike.session]
      split
      · refine ⟨⟨by rw [later.session]; rfl, later.replies⟩, fun _ => ?_⟩
        exact congrArg (fun answer : Except Error Json.Value => inform (answer.map fun _ => ())) same
      · exact ⟨alike, fun _ => rfl⟩

theorem available_alike (password : String) (alike : state.Alike other) :
    client.api.available () state =
      (client.withPassword password).api.available () other :=
  congrArg Session.names alike.session

theorem setup_shows {password : String} (lost : client.LosesLogin state)
    (alike : state.Alike other)
    (same : (client.setup state).1 = ((client.withPassword password).setup other).1) :
    client.password = password := by
  obtain ⟨place, before, after, said⟩ := client.setup_lost lost
  have here := said client.password state ⟨rfl, rfl⟩
  rw [withPassword_self] at here
  have details := here.symm.trans (same.trans (said password other alike))
  have texts := (String.append_right_inj _).mp (NasError.connection.inj (Except.error.inj details))
  have pairs := List.append_cancel_left (lossText_injective texts)
  exact (Prod.mk.inj (List.cons.inj pairs).1).2

/-- Whether a program loses a login, when the client answers it. -/
def LosesLoginIn {Result : Type} : Program Unit Result → State → Prop
  | .done _, _ => False
  | .call _ what next, state =>
    (what = .setup ∧ client.LosesLogin state) ∨
      LosesLoginIn (next (client.api.call () what state).1) (client.api.call () what state).2
  | .available _ next, state => LosesLoginIn (next (client.api.available () state)) state

theorem run_alike {Result : Type} (password : String) (program : Program Unit Result)
    (alike : state.Alike other)
    (hidden : client.password = password ∨ ¬ client.LosesLoginIn program state) :
    (program.run client.api state).1 =
      (program.run (client.withPassword password).api other).1 := by
  -- The states need not be the same, since each client sends its own password, but they stay alike.
  induction program generalizing state other with
  | done result => rw [Program.run, Program.run]
  | call _ what next ih =>
      obtain ⟨later, same⟩ := client.call_alike password what alike
      rw [LosesLoginIn, not_or] at hidden
      rw [Program.run, Program.run, ← same (hidden.imp_right And.left)]
      exact ih _ later (hidden.imp_right And.right)
  | available _ next ih =>
      rw [LosesLoginIn] at hidden
      rw [Program.run, Program.run, ← client.available_alike password alike]
      exact ih _ alike hidden

theorem losesLoginIn_bind {Result Next : Type} (program : Program Unit Result)
    (next : Result → Program Unit Next) :
    client.LosesLoginIn (program.bind next) state ↔
      client.LosesLoginIn program state ∨
        client.LosesLoginIn (next (program.run client.api state).1)
          (program.run client.api state).2 := by
  induction program generalizing state with
  | done result => exact (or_iff_right id).symm
  | call _ what later ih => exact (or_congr_right (ih _)).trans or_assoc.symm
  | available _ later ih => exact ih _

theorem losesLoginIn_each_cons (what : Nas.Call) (rest : List Nas.Call) :
    client.LosesLoginIn (Program.each () (what :: rest)) state ↔
      (what = .setup ∧ client.LosesLogin state) ∨
        client.LosesLoginIn (Program.each () rest) (client.api.call () what state).2 := by
  rw [Program.each, LosesLoginIn, LosesLoginIn, losesLoginIn_bind]
  exact or_congr_right (or_iff_left id)

theorem each_shows {password : String} (calls : List Nas.Call) (alike : state.Alike other)
    (lost : client.LosesLoginIn (Program.each () calls) state)
    (same : ((Program.each () calls).run client.api state).1 =
      ((Program.each () calls).run (client.withPassword password).api other).1) :
    client.password = password := by
  induction calls generalizing state other with
  | nil => exact absurd lost id
  | cons what rest ih =>
      rw [Program.run_each_cons, Program.run_each_cons] at same
      obtain ⟨here, later⟩ := List.cons.inj same
      rw [losesLoginIn_each_cons] at lost
      rcases lost with ⟨rfl, lost⟩ | lost
      · have answers := (Prod.mk.inj (eq_of_heq (Sigma.mk.inj here).2)).1
        exact client.setup_shows lost alike answers
      · exact ih (client.call_alike password what alike).1 lost later

/-- A password shows if and only if a login is lost. Whatever a program asks of two clients that differ
in their passwords, it ends with the same result if it loses no login. And the answers to calls made
one after the other are the same exactly when none of them loses a login. -/
theorem password_shows_iff_login_lost (client : Client) (password : String) (state : State) :
    (∀ {Result : Type} (program : Program Unit Result), ¬ client.LosesLoginIn program state →
      (program.run client.api state).1 =
        (program.run (client.withPassword password).api state).1) ∧
    ∀ calls : List Nas.Call,
      ((Program.each () calls).run client.api state).1 =
          ((Program.each () calls).run (client.withPassword password).api state).1 ↔
        client.password = password ∨ ¬ client.LosesLoginIn (Program.each () calls) state := by
  have itself : state.Alike state := ⟨rfl, rfl⟩
  refine ⟨fun program kept => client.run_alike password program itself (.inr kept), ?_⟩
  intro calls
  constructor
  · intro same
    by_cases lost : client.LosesLoginIn (Program.each () calls) state
    · exact .inl (client.each_shows calls itself lost same)
    · exact .inr lost
  · exact client.run_alike password (Program.each () calls) itself

end TwoClients

private def deafState : State :=
  { session := .fresh
    wire := { replies := [.response 200 (loginTable "auth.cgi"), .lost], sent := [] } }

private theorem station_losesLogin (username password : String) :
    (station username password).LosesLogin deafState := by
  have web := station_web username password
  have below : (station username password).base.path = .segments [""] := rfl
  obtain ⟨wire, discovered, silent⟩ := discover_of_reply web below
    (show (station username password).base.hasHost = true from rfl)
    (show deafState.wire.replies = _ from rfl) read_loginTable_of_plain_path
  obtain ⟨place, reached, _⟩ := place_of_below web below
    (show Url.isRelative (Descriptor.path ⟨"auth.cgi", 6⟩) = true by decide)
  refine ⟨_, wire, discovered, _, place, rfl, reached, ?_⟩
  intro answers
  obtain ⟨_, status, body, rest, replies⟩ := answers
  rw [silent] at replies
  cases replies

/-- A station that tells where to log in and then does not answer: the passwords show. -/
theorem password_shows_of_lost_login :
    ((Program.each () [.setup]).run (station "admin" "hunter2").api deafState).1 ≠
      ((Program.each () [.setup]).run (station "admin" "hunter3").api deafState).1 := by
  intro same
  have lost : (station "admin" "hunter2").LosesLoginIn (Program.each () [.setup]) deafState := by
    rw [losesLoginIn_each_cons]
    exact .inl ⟨rfl, station_losesLogin _ _⟩
  have alike : deafState.Alike deafState := ⟨rfl, rfl⟩
  have shown := (station "admin" "hunter2").each_shows [.setup] alike lost same
  exact absurd shown (by decide)

end PresenceGateway.Dsm.Client
