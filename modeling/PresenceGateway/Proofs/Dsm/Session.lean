import PresenceGateway.Proofs.Dsm.Secrecy
/-!
Sessions over runs of calls. Discovery and login change two parts of a session, and either can fail
after the other has succeeded. After any calls, whatever the replies were, the session holds what the
last successful discovery found and the id of the last successful login, unless an unload came after
it. What a call sends depends on that session alone.
-/
namespace PresenceGateway.Dsm.Client

open Nas (NasError Domain)

/-! ### What a setup achieves -/

def Succeeds {Data : Type} (read : Read.Reader Data) (default : Data) (wire : Wire) (url : Url)
    (data : Data) : Prop :=
  ∃ status body rest envelope, url.hasHost = true ∧ wire.replies = .response status body :: rest ∧
    200 ≤ status ∧ status < 300 ∧ Read.body (Read.envelope read) body = some envelope ∧
    envelope.success = true ∧ envelope.data.getD default = data

theorem get_eq_ok_iff {Data : Type} {read : Read.Reader Data} {default data : Data}
    {wire : Wire} {url : Url} {api : String} :
    (get read url wire).1.bind (unwrap default api) = .ok data ↔
      Succeeds read default wire url data := by
  by_cases answers : wire.Answers url
  · obtain ⟨host, status, body, rest, replies⟩ := answers
    rw [get_answered read host replies, told]
    constructor
    · intro succeeded
      split at succeeded
      · rename_i inside
        cases decoded : Read.body (Read.envelope read) body with
        | none =>
            rw [decoded] at succeeded
            cases succeeded
        | some envelope =>
            rw [decoded] at succeeded
            change unwrap default api envelope = .ok data at succeeded
            unfold unwrap at succeeded
            split at succeeded
            · rename_i success
              exact ⟨status, body, rest, envelope, host, replies, inside.1, inside.2, decoded,
                success, Except.ok.inj succeeded⟩
            · cases succeeded
      · cases succeeded
    · rintro ⟨_, _, _, envelope, _, same, low, high, decoded, success, rfl⟩
      rw [replies] at same
      cases same
      rw [if_pos ⟨low, high⟩, decoded]
      change unwrap default api envelope = _
      rw [unwrap, if_pos success]
  · rw [get_lost read answers]
    constructor
    · intro impossible
      cases impossible
    · rintro ⟨status, body, rest, _, host, replies, _⟩
      exact absurd ⟨host, status, body, rest, replies⟩ answers

variable (client : Client)

def Discovers (wire : Wire) (apis : List (String × Descriptor)) : Prop :=
  ∃ url, client.discoveryUrl = .ok url ∧ Succeeds Read.descriptors [] wire url apis

theorem discover_eq_ok_iff {wire : Wire} {apis : List (String × Descriptor)} :
    (client.discover wire).1 = .ok apis ↔ client.Discovers wire apis := by
  unfold discover Discovers
  cases client.discoveryUrl with
  | error cause => simp
  | ok url =>
      simp only [Except.ok.injEq, exists_eq_left']
      exact get_eq_ok_iff

/-! ### What a call sends -/

structure Question where
  api : String
  method : String
  params : List (String × String)

/-- What a call asks. A setup asks it after its discovery. -/
def question : Nas.Call → Question
  | .setup => { api := authApi, method := "login", params := client.loginParams }
  | .networkMacs => { api := networkApi, method := "list", params := [] }
  | .fetch domain =>
    { api := (domainMethod domain).1, method := (domainMethod domain).2, params := [] }
  | .setupSwitches => { api := Nas.infoApi, method := "GetInfo", params := [] }
  | .unload => { api := authApi, method := "logout", params := [("session", sessionName)] }

/-- The request of a question in the session that is held when it is sent. It goes to the path that
the table gives. -/
def Asks (held : Session) (question : Question) (url : Url) : Prop :=
  ∃ descriptor place, held.descriptor? question.api = some descriptor ∧
    client.place descriptor = .ok place ∧
    url = place.appendPairs (Call.pairs {
      api := question.api, descriptor, method := question.method, params := question.params
      sid := held.sid })

def AtMostOne (may : Url → Prop) (sent : List Url) : Prop :=
  sent = [] ∨ ∃ url, may url ∧ sent = [url]

section Requests

variable (client : Client) {state : State} (asked : Question)
variable {Data : Type} (read : Read.Reader Data) (default : Data)

theorem get_sent (url : Url) (wire : Wire) :
    (get read url wire).2.sent = if url.hasHost then wire.sent ++ [url] else wire.sent := by
  unfold get Wire.exchange
  split
  · cases wire.replies with
    | nil => rfl
    | cons reply rest =>
        cases reply with
        | lost => rfl
        | response status body =>
            dsimp only
            split
            · split <;> rfl
            · rfl
  · rfl

theorem request_of_unasked {asked : Question} (unasked : ∀ url, ¬ client.Asks state.session asked url) :
    ∃ cause, client.request read default asked.api asked.method asked.params state =
      (.error cause, state) := by
  cases found : state.session.descriptor? asked.api with
  | none => exact ⟨_, client.request_unknown read default _ _ _ found⟩
  | some descriptor =>
      cases reached : client.place descriptor with
      | error cause => exact ⟨_, client.request_of_no_place read default _ _ _ found reached⟩
      | ok place => exact absurd ⟨descriptor, place, found, reached, rfl⟩ (unasked _)

theorem request_of_asks {asked : Question} {url : Url} (asks : client.Asks state.session asked url) :
    client.request read default asked.api asked.method asked.params state =
      ((get read url state.wire).1.bind (unwrap default asked.api),
        { state with wire := (get read url state.wire).2 }) := by
  obtain ⟨descriptor, place, found, reached, rfl⟩ := asks
  exact client.request_of_place read default _ _ _ found reached

/-- A session asks a question at one place. -/
theorem Asks.unique {client : Client} {asked : Question} {held : Session} {url other : Url}
    (asks : client.Asks held asked url) (asksToo : client.Asks held asked other) : url = other := by
  obtain ⟨descriptor, place, found, reached, rfl⟩ := asks
  obtain ⟨_, _, foundToo, reachedToo, rfl⟩ := asksToo
  rw [found] at foundToo
  cases foundToo
  rw [reached] at reachedToo
  cases reachedToo
  rfl

theorem request_eq_ok_iff {data : Data} :
    (client.request read default asked.api asked.method asked.params state).1 = .ok data ↔
      ∃ url, client.Asks state.session asked url ∧ Succeeds read default state.wire url data := by
  by_cases asks : ∃ url, client.Asks state.session asked url
  · obtain ⟨url, asks⟩ := asks
    rw [client.request_of_asks read default asks, get_eq_ok_iff]
    constructor
    · exact fun succeeds => ⟨url, asks, succeeds⟩
    · rintro ⟨other, asksToo, succeeds⟩
      exact asks.unique asksToo ▸ succeeds
  · obtain ⟨cause, refused⟩ := client.request_of_unasked read default (not_exists.mp asks)
    rw [refused]
    constructor
    · intro impossible
      cases impossible
    · rintro ⟨url, asked, _⟩
      exact absurd ⟨url, asked⟩ asks

theorem request_session :
    (client.request read default asked.api asked.method asked.params state).2.session =
      state.session := by
  by_cases asks : ∃ url, client.Asks state.session asked url
  · obtain ⟨url, asks⟩ := asks
    rw [client.request_of_asks read default asks]
  · obtain ⟨cause, refused⟩ := client.request_of_unasked read default (not_exists.mp asks)
    rw [refused]

theorem request_sent :
    ∃ sent, AtMostOne (client.Asks state.session asked) sent ∧
      (client.request read default asked.api asked.method asked.params state).2.wire.sent =
        state.wire.sent ++ sent := by
  by_cases asks : ∃ url, client.Asks state.session asked url
  · obtain ⟨url, asks⟩ := asks
    rw [client.request_of_asks read default asks]
    dsimp only
    rw [get_sent]
    split
    · exact ⟨[url], .inr ⟨url, asks, rfl⟩, rfl⟩
    · exact ⟨[], .inl rfl, (List.append_nil _).symm⟩
  · obtain ⟨cause, refused⟩ := client.request_of_unasked read default (not_exists.mp asks)
    rw [refused]
    exact ⟨[], .inl rfl, (List.append_nil _).symm⟩

/-- A request carries the latest version of its interface, and the id exactly when there is one. -/
theorem Asks.carries {client : Client} {asked : Question} {held : Session} {url : Url}
    (asks : client.Asks held asked url) (unnamed : ∀ sid, ("_sid", sid) ∉ asked.params) :
    ∃ descriptor place added, held.descriptor? asked.api = some descriptor ∧
      client.place descriptor = .ok place ∧ url.pairs = place.pairs ++ added ∧
      ("version", toString descriptor.maxVersion) ∈ added ∧
      ∀ sid, ("_sid", sid) ∈ added ↔ held.sid = some sid := by
  obtain ⟨descriptor, place, found, reached, rfl⟩ := asks
  refine ⟨descriptor, place, _, found, reached, Url.pairs_appendPairs _ _, ?_, ?_⟩
  · simp [Call.pairs]
  · intro sid
    cases held.sid <;> simp [Call.pairs, unnamed, eq_comm]

end Requests

/-! ### What a setup writes -/

/-- Between the two requests of a setup: the interfaces are found, and the session is the old one. -/
def discovered (state : State) (apis : List (String × Descriptor)) : State :=
  { session := { state.session with apis }, wire := (client.discover state.wire).2 }

/-- A setup discovers some interfaces, and the login after it gives an id that is not empty. -/
def LogsIn (state : State) (sid : String) : Prop :=
  ∃ apis url, client.Discovers state.wire apis ∧
    client.Asks (client.discovered state apis).session (client.question .setup) url ∧
    Succeeds Read.sessionId "" (client.discovered state apis).wire url sid ∧ sid ≠ ""

/-- What a call makes of the table of interfaces, if it changes it. -/
def WritesTable (state : State) (what : Nas.Call) (apis : List (String × Descriptor)) : Prop :=
  what = .setup ∧ client.Discovers state.wire apis

/-- What a call makes of the id, if it changes it. -/
inductive WritesId (client : Client) (state : State) : Nas.Call → Option String → Prop where
  | login {sid : String} (succeeds : client.LogsIn state sid) :
      WritesId client state .setup (some sid)
  | unload : WritesId client state .unload none

section Setup

variable {client : Client} {state : State}

theorem loginResult_eq_ok_iff {answer : Except Error String} {sid : String} :
    loginResult answer = .ok sid ↔ answer = .ok sid ∧ sid ≠ "" := by
  cases answer with
  | error cause => cases cause <;> simp [loginResult]
  | ok given =>
      unfold loginResult
      dsimp only
      by_cases empty : given.isEmpty = true
      · rw [if_pos empty]
        constructor
        · intro impossible
          cases impossible
        · rintro ⟨same, nonempty⟩
          exact absurd (String.isEmpty_iff.mp empty) (Except.ok.inj same ▸ nonempty)
      · rw [if_neg empty]
        constructor
        · intro same
          cases same
          exact ⟨rfl, fun nothing => empty (String.isEmpty_iff.mpr nothing)⟩
        · exact And.left

theorem login_eq_ok_iff {sid : String} :
    (client.login state).1 = .ok sid ↔
      ∃ url, client.Asks state.session (client.question .setup) url ∧
        Succeeds Read.sessionId "" state.wire url sid ∧ sid ≠ "" := by
  refine loginResult_eq_ok_iff.trans ((and_congr_left fun _ =>
    client.request_eq_ok_iff (client.question .setup) Read.sessionId "").trans ?_)
  constructor
  · rintro ⟨⟨url, asks, succeeds⟩, nonempty⟩
    exact ⟨url, asks, succeeds, nonempty⟩
  · rintro ⟨url, asks, succeeds, nonempty⟩
    exact ⟨⟨url, asks, succeeds⟩, nonempty⟩

theorem login_session : (client.login state).2.session = state.session :=
  client.request_session (client.question .setup) Read.sessionId ""

theorem opened_wire (answer : Except Error String) :
    (opened answer state).2.wire = state.wire := by
  cases answer <;> rfl

theorem opened_apis (answer : Except Error String) :
    (opened answer state).2.session.apis = state.session.apis := by
  cases answer <;> rfl

theorem setup_of_discovers {apis : List (String × Descriptor)}
    (discovers : client.Discovers state.wire apis) :
    client.setup state = opened (client.login (client.discovered state apis)).1
      (client.login (client.discovered state apis)).2 := by
  apply setup_discovered
  rw [← client.discover_eq_ok_iff.mpr discovers]

theorem setup_of_undiscovered (undiscovered : ∀ apis, ¬ client.Discovers state.wire apis) :
    ∃ cause, client.setup state =
      (.error cause, { state with wire := (client.discover state.wire).2 }) := by
  cases found : (client.discover state.wire).1 with
  | error cause => exact ⟨_, client.setup_undiscovered (Prod.ext found rfl)⟩
  | ok apis => exact absurd (client.discover_eq_ok_iff.mp found) (undiscovered apis)

theorem Discovers.unique {wire : Wire} {apis other : List (String × Descriptor)}
    (discovers : client.Discovers wire apis) (discoversToo : client.Discovers wire other) :
    apis = other := by
  have here := client.discover_eq_ok_iff.mpr discovers
  have there := client.discover_eq_ok_iff.mpr discoversToo
  exact Except.ok.inj (here.symm.trans there)

theorem logsIn_iff_login {apis : List (String × Descriptor)} {sid : String}
    (discovers : client.Discovers state.wire apis) :
    client.LogsIn state sid ↔ (client.login (client.discovered state apis)).1 = .ok sid := by
  rw [login_eq_ok_iff]
  constructor
  · rintro ⟨_, url, discoversToo, asks, succeeds, nonempty⟩
    cases discovers.unique discoversToo
    exact ⟨url, asks, succeeds, nonempty⟩
  · rintro ⟨url, asks, succeeds, nonempty⟩
    exact ⟨apis, url, discovers, asks, succeeds, nonempty⟩

theorem setup_apis {apis : List (String × Descriptor)}
    (discovers : client.Discovers state.wire apis) :
    (client.setup state).2.session.apis = apis := by
  rw [setup_of_discovers discovers, opened_apis, login_session]
  rfl

theorem setup_apis_of_undiscovered (undiscovered : ∀ apis, ¬ client.Discovers state.wire apis) :
    (client.setup state).2.session.apis = state.session.apis := by
  obtain ⟨cause, failed⟩ := setup_of_undiscovered undiscovered
  rw [failed]

theorem setup_sid {sid : String} (logsIn : client.LogsIn state sid) :
    (client.setup state).2.session.sid = some sid := by
  obtain ⟨apis, discovers⟩ : ∃ apis, client.Discovers state.wire apis :=
    logsIn.imp fun _ ⟨_, discovers, _⟩ => discovers
  rw [setup_of_discovers discovers, (logsIn_iff_login discovers).mp logsIn]
  rfl

theorem setup_sid_of_refused (refused : ∀ sid, ¬ client.LogsIn state sid) :
    (client.setup state).2.session.sid = state.session.sid := by
  by_cases found : ∃ apis, client.Discovers state.wire apis
  · obtain ⟨apis, discovers⟩ := found
    rw [setup_of_discovers discovers]
    cases answered : (client.login (client.discovered state apis)).1 with
    | error cause =>
        rw [opened, login_session]
        rfl
    | ok sid => exact absurd ((logsIn_iff_login discovers).mpr answered) (refused sid)
  · obtain ⟨cause, failed⟩ := setup_of_undiscovered (not_exists.mp found)
    rw [failed]

theorem discover_sent (client : Client) (wire : Wire) :
    ∃ sent, AtMostOne (fun url => client.discoveryUrl = .ok url) sent ∧
      (client.discover wire).2.sent = wire.sent ++ sent := by
  unfold discover
  cases target : client.discoveryUrl with
  | error cause => exact ⟨[], .inl rfl, (List.append_nil _).symm⟩
  | ok url =>
      dsimp only
      rw [get_sent]
      split
      · exact ⟨[url], .inr ⟨url, rfl, rfl⟩, rfl⟩
      · exact ⟨[], .inl rfl, (List.append_nil _).symm⟩

end Setup

theorem question_params (what : Nas.Call) (sid : String) :
    ("_sid", sid) ∉ (client.question what).params := by
  cases what <;> simp [question, loginParams]

/-- The requests of a call. The login of a setup already goes to the path in the new table, but
carries the id of the session before it. -/
def Sends (state : State) : Nas.Call → List Url → Prop
  | .setup, sent => ∃ first second, sent = first ++ second ∧
      AtMostOne (fun url => client.discoveryUrl = .ok url) first ∧
      AtMostOne (fun url => ∃ apis, client.Discovers state.wire apis ∧
        client.Asks (client.discovered state apis).session (client.question .setup) url) second
  | what, sent => AtMostOne (client.Asks state.session (client.question what)) sent

section Calls

variable {client : Client} {state : State}

theorem setup_sent :
    ∃ sent, client.Sends state .setup sent ∧
      (client.setup state).2.wire.sent = state.wire.sent ++ sent := by
  obtain ⟨first, kind, sentFirst⟩ := client.discover_sent state.wire
  by_cases found : ∃ apis, client.Discovers state.wire apis
  · obtain ⟨apis, discovers⟩ := found
    obtain ⟨second, kindToo, sentSecond⟩ := @client.request_sent (client.discovered state apis)
      (client.question .setup) _ Read.sessionId ""
    refine ⟨first ++ second, ⟨first, second, rfl, kind, ?_⟩, ?_⟩
    · exact kindToo.imp_right fun ⟨url, asks, one⟩ => ⟨url, ⟨apis, discovers, asks⟩, one⟩
    · rw [setup_of_discovers discovers, opened_wire, ← List.append_assoc, ← sentFirst]
      exact sentSecond
  · obtain ⟨cause, failed⟩ := setup_of_undiscovered (not_exists.mp found)
    refine ⟨first ++ [], ⟨first, [], rfl, kind, .inl rfl⟩, ?_⟩
    rw [failed, List.append_nil]
    exact sentFirst

theorem unload_of_closed (closed : state.session.sid = none) :
    client.unload state = (.ok (), state) := by
  rw [unload, Session.isLoggedIn, closed]
  rfl

theorem unload_wire_of_open (held : state.session.sid ≠ none) :
    (client.unload state).2.wire =
      (client.request Read.value .null authApi "logout" [("session", sessionName)] state).2.wire := by
  rw [unload, Session.isLoggedIn, if_pos (Option.isSome_iff_ne_none.mpr held)]

theorem unload_session :
    (client.unload state).2.session = { state.session with sid := none } := by
  by_cases closed : state.session.sid = none
  · rw [unload_of_closed closed, ← closed]
  · rw [unload, Session.isLoggedIn, if_pos (Option.isSome_iff_ne_none.mpr closed)]
    have kept := @client.request_session state (client.question .unload) _ Read.value .null
    exact congrArg (fun session : Session => { session with sid := none }) kept

theorem call_sent (what : Nas.Call) :
    ∃ sent, client.Sends state what sent ∧
      (client.api.call () what state).2.wire.sent = state.wire.sent ++ sent := by
  cases what with
  | setup => exact setup_sent
  | networkMacs => exact client.request_sent (client.question .networkMacs) Read.addresses []
  | fetch domain => exact client.request_sent (client.question (.fetch domain)) Read.value .null
  | setupSwitches => exact client.request_sent (client.question .setupSwitches) Read.value .null
  | unload =>
      by_cases closed : state.session.sid = none
      · refine ⟨[], .inl rfl, ?_⟩
        change (client.unload state).2.wire.sent = _
        rw [unload_of_closed closed, List.append_nil]
      · change ∃ sent, _ ∧ (client.unload state).2.wire.sent = _
        rw [unload_wire_of_open closed]
        exact client.request_sent (client.question .unload) Read.value .null

theorem call_session_of_quiet {what : Nas.Call} (quiet : what.Quiet) :
    (client.api.call () what state).2.session = state.session := by
  cases what with
  | setup => exact absurd rfl quiet.1
  | networkMacs => exact client.request_session (client.question .networkMacs) Read.addresses []
  | fetch domain => exact client.request_session (client.question (.fetch domain)) Read.value .null
  | setupSwitches => exact client.request_session (client.question .setupSwitches) Read.value .null
  | unload => exact absurd rfl quiet.2

/-- A call of an interface that is not in the table fails and sends nothing. -/
theorem call_of_unknown {what : Nas.Call} (quiet : what.Quiet)
    (unknown : state.session.descriptor? (client.question what).api = none) :
    client.api.call () what state =
      (.error (.connection ("api " ++ (client.question what).api ++
        " is not available on this NAS")), state) := by
  cases what with
  | setup => exact absurd rfl quiet.1
  | networkMacs =>
      change client.networkMacs state = _
      rw [networkMacs, client.request_unknown Read.addresses [] networkApi "list" [] unknown]
      rfl
  | fetch domain =>
      have refused := client.request_unknown Read.value .null _ (domainMethod domain).2 [] unknown
      exact congrArg (fun answered : Except Error Json.Value × State =>
        (inform answered.1, answered.2)) refused
  | setupSwitches =>
      change client.setupSwitches state = _
      rw [setupSwitches, client.request_unknown Read.value .null Nas.infoApi "GetInfo" [] unknown]
      rfl
  | unload => exact absurd rfl quiet.2

theorem call_apis {what : Nas.Call} {apis : List (String × Descriptor)}
    (writes : client.WritesTable state what apis) :
    (client.api.call () what state).2.session.apis = apis := by
  obtain ⟨rfl, discovers⟩ := writes
  exact setup_apis discovers

theorem call_apis_of_unwritten {what : Nas.Call}
    (unwritten : ∀ apis, ¬ client.WritesTable state what apis) :
    (client.api.call () what state).2.session.apis = state.session.apis := by
  by_cases setup : what = .setup
  · subst setup
    exact setup_apis_of_undiscovered fun apis discovers => unwritten apis ⟨rfl, discovers⟩
  · by_cases unload : what = .unload
    · subst unload
      change (client.unload state).2.session.apis = _
      rw [unload_session]
    · exact congrArg Session.apis (call_session_of_quiet ⟨setup, unload⟩)

theorem call_sid {what : Nas.Call} {sid : Option String}
    (writes : client.WritesId state what sid) :
    (client.api.call () what state).2.session.sid = sid := by
  cases writes with
  | login logsIn => exact setup_sid logsIn
  | unload => exact congrArg Session.sid unload_session

theorem call_sid_of_unwritten {what : Nas.Call}
    (unwritten : ∀ sid, ¬ client.WritesId state what sid) :
    (client.api.call () what state).2.session.sid = state.session.sid := by
  by_cases setup : what = .setup
  · subst setup
    exact setup_sid_of_refused fun sid logsIn => unwritten _ (.login logsIn)
  · by_cases unload : what = .unload
    · subst unload
      exact absurd .unload (unwritten none)
    · exact congrArg Session.sid (call_session_of_quiet ⟨setup, unload⟩)

end Calls

/-! ### Runs -/

def after (state : State) (calls : List Nas.Call) : State :=
  calls.foldl (fun state what => (client.api.call () what state).2) state

section Histories

variable {Part : Type} (writes : State → Nas.Call → Part → Prop)

def NeverWritten (state : State) (calls : List Nas.Call) : Prop :=
  ∀ before what later, calls = before ++ what :: later →
    ∀ part, ¬ writes (client.after state before) what part

/-- The last of some calls that writes a part of the state writes this. -/
def LastWritten (state : State) (calls : List Nas.Call) (part : Part) : Prop :=
  ∃ before what later, calls = before ++ what :: later ∧
    writes (client.after state before) what part ∧
    client.NeverWritten writes (client.after state (before ++ [what])) later

variable {client : Client} {writes : State → Nas.Call → Part → Prop} {state : State}
variable {what : Nas.Call} {rest : List Nas.Call} {part : Part}

theorem neverWritten_nil : client.NeverWritten writes state [] := by
  intro before what later split
  exact absurd split.symm (List.append_ne_nil_of_right_ne_nil _ (List.cons_ne_nil _ _))

theorem neverWritten_cons :
    client.NeverWritten writes state (what :: rest) ↔
      (∀ part, ¬ writes state what part) ∧
        client.NeverWritten writes (client.api.call () what state).2 rest := by
  constructor
  · intro never
    refine ⟨never [] what rest rfl, fun before next later split => ?_⟩
    exact never (what :: before) next later (congrArg (what :: ·) split)
  · rintro ⟨here, never⟩ before next later split
    cases before with
    | nil =>
        cases split
        exact here
    | cons first before =>
        cases split
        exact never before next later rfl

theorem not_lastWritten_nil : ¬ client.LastWritten writes state [] part := by
  rintro ⟨before, what, later, split, _⟩
  exact absurd split.symm (List.append_ne_nil_of_right_ne_nil _ (List.cons_ne_nil _ _))

theorem lastWritten_cons :
    client.LastWritten writes state (what :: rest) part ↔
      client.LastWritten writes (client.api.call () what state).2 rest part ∨
        (writes state what part ∧
          client.NeverWritten writes (client.api.call () what state).2 rest) := by
  constructor
  · rintro ⟨before, next, later, split, written, never⟩
    cases before with
    | nil =>
        cases split
        exact .inr ⟨written, never⟩
    | cons first before =>
        cases split
        exact .inl ⟨before, next, later, rfl, written, never⟩
  · rintro (⟨before, next, later, rfl, written, never⟩ | ⟨written, never⟩)
    · exact ⟨what :: before, next, later, rfl, written, never⟩
    · exact ⟨[], what, rest, rfl, written, never⟩

/-- A part of the state that each call either writes or leaves alone is what was written last, or
what it was at first if nothing was. -/
theorem after_eq_iff_lastWritten (client : Client) (state : State) (held : State → Part)
    (written : ∀ {state what part}, writes state what part →
      held (client.api.call () what state).2 = part)
    (unwritten : ∀ {state what}, (∀ part, ¬ writes state what part) →
      held (client.api.call () what state).2 = held state)
    (calls : List Nas.Call) :
    held (client.after state calls) = part ↔
      client.LastWritten writes state calls part ∨
        (held state = part ∧ client.NeverWritten writes state calls) := by
  induction calls generalizing state with
  | nil =>
      constructor
      · exact fun same => .inr ⟨same, neverWritten_nil⟩
      · exact fun history => (history.resolve_left not_lastWritten_nil).1
  | cons what rest ih =>
      refine Iff.trans (@ih (client.api.call () what state).2) ?_
      rw [lastWritten_cons, neverWritten_cons]
      by_cases writing : ∃ other, writes state what other
      · obtain ⟨other, writing⟩ := writing
        constructor
        · rintro (last | ⟨rfl, never⟩)
          · exact .inl (.inl last)
          · exact .inl (.inr ⟨written writing ▸ writing, never⟩)
        · rintro ((last | ⟨writing, never⟩) | ⟨_, none, _⟩)
          · exact .inl last
          · exact .inr ⟨written writing, never⟩
          · exact absurd writing (none other)
      · have none := not_exists.mp writing
        rw [unwritten none]
        constructor
        · rintro (last | ⟨same, never⟩)
          · exact .inl (.inl last)
          · exact .inr ⟨same, none, never⟩
        · rintro ((last | ⟨writing, _⟩) | ⟨same, _, never⟩)
          · exact .inl last
          · exact absurd writing (none _)
          · exact .inr ⟨same, never⟩

end Histories

def fresh (replies : List Reply) : State :=
  { session := .fresh, wire := { replies, sent := [] } }

/-- What holds of a session after some calls of a fresh client, and of whatever is called next. -/
structure FollowsCalls (client : Client) (replies : List Reply) (calls : List Nas.Call)
    (state : State) : Prop where
  id_eq_iff : ∀ sid, state.session.sid = some sid ↔
    client.LastWritten client.WritesId (fresh replies) calls (some sid)
  isLoggedIn_iff : state.session.isLoggedIn = true ↔ ∃ sid, sid ≠ "" ∧
    client.LastWritten client.WritesId (fresh replies) calls (some sid)
  table_eq_iff : ∀ apis, state.session.apis = apis ↔
    client.LastWritten client.WritesTable (fresh replies) calls apis ∨
      (apis = [] ∧ client.NeverWritten client.WritesTable (fresh replies) calls)
  sends : ∀ what, ∃ sent, client.Sends state what sent ∧
    (client.api.call () what state).2.wire.sent = state.wire.sent ++ sent
  carries : ∀ what held url, client.Asks held (client.question what) url →
    ∃ descriptor place added, held.descriptor? (client.question what).api = some descriptor ∧
      client.place descriptor = .ok place ∧ url.pairs = place.pairs ++ added ∧
      ("version", toString descriptor.maxVersion) ∈ added ∧
      ∀ sid, ("_sid", sid) ∈ added ↔ held.sid = some sid
  unknown : ∀ what : Nas.Call, what.Quiet →
    state.session.descriptor? (client.question what).api = none ∨
      client.NeverWritten client.WritesTable (fresh replies) calls →
    client.api.call () what state =
      (.error (.connection ("api " ++ (client.question what).api ++
        " is not available on this NAS")), state)
  unload_closed : state.session.sid = none →
    client.api.call () .unload state = (.ok (), state)
  unload_session :
    (client.api.call () .unload state).2.session = { state.session with sid := none }

/-- After any calls of a client, whatever the replies were, the session holds what the last successful
discovery found, and the id of the last successful login unless an unload came after it. The next
call sends what this session allows. -/
theorem session_follows_calls (client : Client) (replies : List Reply) (calls : List Nas.Call) :
    client.FollowsCalls replies calls (client.after (fresh replies) calls) := by
  have id (sid : Option String) :
      (client.after (fresh replies) calls).session.sid = sid ↔ _ :=
    client.after_eq_iff_lastWritten (fresh replies) (fun state => state.session.sid) call_sid
      call_sid_of_unwritten calls
  have table (apis : List (String × Descriptor)) :
      (client.after (fresh replies) calls).session.apis = apis ↔ _ :=
    client.after_eq_iff_lastWritten (fresh replies) (fun state => state.session.apis) call_apis
      call_apis_of_unwritten calls
  have idOf (sid : String) : (client.after (fresh replies) calls).session.sid = some sid ↔
      client.LastWritten client.WritesId (fresh replies) calls (some sid) := by
    refine (id (some sid)).trans (or_iff_left ?_)
    rintro ⟨impossible, _⟩
    cases impossible
  refine ⟨idOf, ?_, ?_, fun what => call_sent what, ?_, ?_, unload_of_closed, unload_session⟩
  · rw [Session.isLoggedIn, Option.isSome_iff_exists]
    refine exists_congr fun sid => (idOf sid).trans (iff_and_self.mpr ?_)
    rintro ⟨before, what, later, _, written, _⟩
    cases written with
    | login logsIn =>
        obtain ⟨_, _, _, _, _, nonempty⟩ := logsIn
        exact nonempty
  · intro apis
    refine (table apis).trans (or_congr_right (and_congr_left fun _ => ?_))
    exact eq_comm
  · intro what held url asks
    exact asks.carries (client.question_params what)
  · rintro what quiet (unknown | never)
    · exact call_of_unknown quiet unknown
    · have empty : (client.after (fresh replies) calls).session.apis = [] :=
        (table []).mpr (.inr ⟨rfl, never⟩)
      apply call_of_unknown quiet
      rw [Session.descriptor?, empty]
      rfl

end PresenceGateway.Dsm.Client
