import PresenceGateway.Proofs.Dsm.Destinations
import PresenceGateway.Proofs.Url.Targets
/-!
What a station reads of the requests of a client. Below the root of the base every request is for a
file of the same folder, and its query says in order what is called, in which version, with which
parameters and in which session. None of these texts can change what is read of another one.
-/
namespace PresenceGateway.Dsm.Client

open Url (IsName IsPlainPath SameSite)

/-! ### What is meant -/

/-- What a request is meant to say: it is for a file in the folder of the interface, and carries some
pairs in order. -/
structure ReadsAs (base : Url) (file : String) (pairs : List (String × String)) (url : Url) :
    Prop where
  target : Url.readTarget url.target = ("/webapi/" ++ file, pairs)
  clean : ∀ c ∈ url.target.toList, Url.isTargetChar c = true
  site : url.hasHost = true → url.SameSite base

def discoveryPairs : List (String × String) :=
  [("api", "SYNO.API.Info"), ("version", "1"), ("method", "query"), ("query", "all")]

def ownPairs (client : Client) : Nas.Call → List (String × String)
  | .setup => [("account", client.username), ("passwd", client.password), ("session", "webui"),
      ("format", "sid")]
  | .unload => [("session", "webui")]
  | _ => []

/-- What the request of a call says in a session, given the version of its interface. -/
def meantPairs (client : Client) (held : Session) (version : Nat) (what : Nas.Call) :
    List (String × String) :=
  [("api", (client.question what).api), ("version", toString version),
    ("method", (client.question what).method)] ++ client.ownPairs what ++
    match held.sid with
    | some sid => [("_sid", sid)]
    | none => []

theorem question_params_eq (client : Client) (what : Nas.Call) :
    (client.question what).params = client.ownPairs what := by
  cases what <;> rfl

theorem pairs_eq_meantPairs (client : Client) (held : Session) (descriptor : Descriptor)
    (what : Nas.Call) :
    Call.pairs { api := (client.question what).api, descriptor
                 method := (client.question what).method, params := (client.question what).params
                 sid := held.sid } = client.meantPairs held descriptor.maxVersion what := by
  unfold Call.pairs meantPairs
  rw [question_params_eq]
  cases held.sid <;> rfl

/-! ### Places below the root -/

theorem isName_webapi : IsName "webapi" :=
  ⟨List.all_eq_true.mp (by decide), by decide, by decide⟩

theorem isName_empty : IsName "" :=
  ⟨List.all_eq_true.mp (by decide), by decide, by decide⟩

theorem isName_discovery : IsName "query.cgi" :=
  ⟨List.all_eq_true.mp (by decide), by decide, by decide⟩

theorem folder_isPlainPath : IsPlainPath "webapi/" where
  plain := List.all_eq_true.mp (by decide)
  relative := by decide
  names := by
    have split : Text.split '/' "webapi/" = ["webapi", ""] := by decide +kernel
    rw [split]
    exact List.forall_mem_cons.mpr ⟨isName_webapi, List.forall_mem_singleton.mpr isName_empty⟩

theorem discovery_isPlainPath : IsPlainPath "webapi/query.cgi" where
  plain := List.all_eq_true.mp (by decide)
  relative := by decide
  names := by
    have split : Text.split '/' "webapi/query.cgi" = ["webapi", "query.cgi"] := by decide +kernel
    rw [split]
    exact List.forall_mem_cons.mpr ⟨isName_webapi, List.forall_mem_singleton.mpr isName_discovery⟩

theorem split_of_isName {name : String} (isName : IsName name) : Text.split '/' name = [name] := by
  have noSlash : '/' ∉ name.toList := by
    intro inside
    have plain := isName.plain '/' inside
    exact absurd plain (by decide +kernel)
  rw [Text.split, Text.splitChars_eq_singleton noSlash, List.map_singleton, String.ofList_toList]

theorem isPlainPath_of_isName {name : String} (isName : IsName name) : IsPlainPath name where
  plain := fun c inside => Url.isPathChar_of_isNameChar (isName.plain c inside)
  relative := by
    intro slash
    have plain := isName.plain '/' (List.mem_of_mem_head? slash)
    exact absurd plain (by decide +kernel)
  names := by
    rw [split_of_isName isName]
    exact List.forall_mem_singleton.mpr isName

theorem text_in_folder (name : String) :
    Path.text (.segments ["webapi", name]) = "/webapi/" ++ name := by
  have joined : Path.text (.segments ["webapi", name]) = "/webapi" ++ ("/" ++ name) := by
    simp [Path.text, String.join_cons]
  rw [joined, ← String.append_assoc]
  congr 1

section Root

variable {client : Client} {text : String} (based : Url.parse text = .ok client.base)
  (root : client.base.path = .segments [""]) (bare : client.base.query = none)

include root bare

theorem folder_of_root :
    ∃ folder, client.base.join "webapi/" = .ok folder ∧
      folder.path = .segments ["webapi", ""] ∧ folder.query = none ∧
      folder.hasHost = client.base.hasHost := by
  have below : client.base.path = .segments ([] ++ [""]) := root
  obtain ⟨folder, joined, path, query, host⟩ :=
    Url.join_of_plain folder_isPlainPath below bare (by simp)
  have split : Text.split '/' "webapi/" = ["webapi", ""] := by decide +kernel
  rw [split] at path
  exact ⟨folder, joined, path, query, host⟩

/-- An interface with a plain path is called in the folder below the root. -/
theorem place_of_root {descriptor : Descriptor} (isName : IsName descriptor.path) :
    ∃ place, client.place descriptor = .ok place ∧
      place.path = .segments ["webapi", descriptor.path] ∧ place.query = none ∧
      place.hasHost = client.base.hasHost := by
  obtain ⟨folder, joined, path, query, host⟩ := folder_of_root root bare
  have below : folder.path = .segments (["webapi"] ++ [""]) := path
  obtain ⟨place, joinedToo, pathToo, queryToo, hostToo⟩ :=
    Url.join_of_plain (isPlainPath_of_isName isName) below query (by simp)
  rw [split_of_isName isName] at pathToo
  refine ⟨place, ?_, pathToo, queryToo, hostToo.trans host⟩
  rw [Client.place, joined]
  exact joinedToo

include based

theorem readsAs_of_asks {held : Session} {descriptor : Descriptor} {what : Nas.Call} {url : Url}
    (found : held.descriptor? (client.question what).api = some descriptor)
    (isName : IsName descriptor.path) (asks : client.Asks held (client.question what) url) :
    ReadsAs client.base descriptor.path (client.meantPairs held descriptor.maxVersion what) url := by
  obtain ⟨other, place, foundToo, reached, rfl⟩ := asks
  rw [found] at foundToo
  cases foundToo
  obtain ⟨named, reachedToo, path, query, _⟩ := place_of_root root bare isName
  rw [reached] at reachedToo
  cases reachedToo
  have all : ∀ name ∈ ["webapi", descriptor.path], IsName name :=
    List.forall_mem_cons.mpr ⟨isName_webapi, List.forall_mem_singleton.mpr isName⟩
  have unnamed := Url.namesSite_of_isRelative client.base.scheme
    (Url.isRelative_of_plain (isPlainPath_of_isName isName))
  rw [pairs_eq_meantPairs]
  refine ⟨?_, fun c => Url.isTargetChar_of_mem_target path query all, fun host => ?_⟩
  · rw [Url.readTarget_appendPairs path query all, text_in_folder]
  · have same := place_sameSite (Url.parse_fileHasNoPort based) unnamed reached host
    exact ⟨same.scheme, same.host, same.port⟩

theorem readsAs_of_discovery {url : Url} (asked : client.discoveryUrl = .ok url) :
    ReadsAs client.base "query.cgi" discoveryPairs url := by
  have below : client.base.path = .segments ([] ++ [""]) := root
  obtain ⟨place, joined, path, query, _⟩ :=
    Url.join_of_plain discovery_isPlainPath below bare (by simp)
  have split : Text.split '/' "webapi/query.cgi" = ["webapi", "query.cgi"] := by decide +kernel
  rw [split] at path
  have site := discoveryUrl_sameSite (Url.parse_fileHasNoPort based) asked
  rw [discoveryUrl, joined] at asked
  cases asked
  have all : ∀ name ∈ ["webapi", "query.cgi"], IsName name :=
    List.forall_mem_cons.mpr ⟨isName_webapi, List.forall_mem_singleton.mpr isName_discovery⟩
  refine ⟨?_, fun c => Url.isTargetChar_of_mem_target path query all, site⟩
  exact (Url.readTarget_appendPairs path query all _).trans
    (congrArg (·, discoveryPairs) (text_in_folder "query.cgi"))

end Root

/-! ### Runs -/

structure AsksOf (client : Client) (state : State) (what : Nas.Call) (held : Session)
    (descriptor : Descriptor) : Prop where
  asksIn : client.AsksIn state what held
  found : held.descriptor? (client.question what).api = some descriptor

/-- Every request of a run is read as it was meant, whatever was answered and whatever the account,
the password and the session ids are. A discovery asks for all interfaces. Every other request is
that of a call, and if the path of its interface is a plain name, then it is for the file of that name and
says in order the interface, its version, the method, the parameters of the call and the session in
which it is made. Each call of such an interface makes its request. -/
theorem requests_read_as_meant {text : String} (client : Client)
    (based : Url.parse text = .ok client.base) (root : client.base.path = .segments [""])
    (bare : client.base.query = none) (replies : List Reply) (calls : List Nas.Call) :
    (∀ url ∈ (client.after (fresh replies) calls).wire.sent,
      ReadsAs client.base "query.cgi" discoveryPairs url ∨
        ∃ before what later held descriptor, calls = before ++ what :: later ∧
          client.AsksOf (client.after (fresh replies) before) what held descriptor ∧
          client.Asks held (client.question what) url ∧
          (IsName descriptor.path → ReadsAs client.base descriptor.path
            (client.meantPairs held descriptor.maxVersion what) url)) ∧
    (client.base.hasHost = true → ∀ before what later held descriptor,
      calls = before ++ what :: later →
      client.AsksOf (client.after (fresh replies) before) what held descriptor →
      IsName descriptor.path →
      ∃ url ∈ (client.after (fresh replies) calls).wire.sent, ReadsAs client.base descriptor.path
        (client.meantPairs held descriptor.maxVersion what) url) := by
  constructor
  · intro url sent
    obtain ⟨before, what, later, split, requests, _⟩ :=
      (mem_after_sent.mp sent).resolve_left List.not_mem_nil
    rcases requests with ⟨_, discovery⟩ | ⟨held, asksIn, asks⟩
    · exact .inl (readsAs_of_discovery based root bare discovery)
    · obtain ⟨descriptor, _, found, _⟩ := id asks
      have meant (isName : IsName descriptor.path) := readsAs_of_asks based root bare found isName asks
      exact .inr ⟨before, what, later, held, descriptor, split, ⟨asksIn, found⟩, asks, meant⟩
  · intro reachable before what later held descriptor split asksOf isName
    obtain ⟨place, reached, _, _, host⟩ := place_of_root root bare isName
    have asks : client.Asks held (client.question what) _ :=
      ⟨descriptor, place, asksOf.found, reached, rfl⟩
    refine ⟨_, mem_after_sent.mpr (.inr ⟨before, what, later, split,
      .inr ⟨held, asksOf.asksIn, asks⟩, host.trans reachable⟩), ?_⟩
    exact readsAs_of_asks based root bare asksOf.found isName asks

/-! ### A password full of marks -/

private def markedStation : Client :=
  station "a&b=c" "50% é+1#&_sid=x"

private theorem markedStation_asks :
    ∃ held, markedStation.AsksOf (fresh [.response 200 (loginTable "auth.cgi")]) .setup held
      ⟨"auth.cgi", 6⟩ ∧ held.sid = none :=
  ⟨_, ⟨⟨loginAt "auth.cgi", station_discovers _ _ read_loginTable_of_plain_path, rfl⟩, rfl⟩, rfl⟩

/-- Nothing in such a password is taken for a pair of its own. -/
theorem requests_read_as_meant_of_marks :
    Url.parse "http://[fd00::1]/" = .ok markedStation.base ∧
      markedStation.base.path = .segments [""] ∧ markedStation.base.query = none ∧
      ∃ url ∈ (markedStation.after (fresh [.response 200 (loginTable "auth.cgi")])
        [.setup]).wire.sent,
        Url.readTarget url.target = ("/webapi/auth.cgi",
          [("api", "SYNO.API.Auth"), ("version", "6"), ("method", "login"), ("account", "a&b=c"),
            ("passwd", "50% é+1#&_sid=x"), ("session", "webui"), ("format", "sid")]) := by
  obtain ⟨held, asksOf, noSession⟩ := markedStation_asks
  have isName : IsName "auth.cgi" := ⟨List.all_eq_true.mp (by decide), by decide, by decide⟩
  obtain ⟨url, sent, reads⟩ := (requests_read_as_meant markedStation (station_based _ _) rfl rfl
    [.response 200 (loginTable "auth.cgi")] [.setup]).2 rfl [] .setup [] held _ rfl asksOf isName
  refine ⟨station_based _ _, rfl, rfl, url, sent, reads.target.trans ?_⟩
  unfold meantPairs
  rw [noSession]
  rfl

end PresenceGateway.Dsm.Client
