import PresenceGateway.Gateway.Routes
import PresenceGateway.Proofs.Config.Loading
import PresenceGateway.Proofs.Http.RouteRefusals
import PresenceGateway.Proofs.Http.RouteSearch
/-!
Which webhook paths a gateway serves.

A configuration may have any webhook path that begins with a slash. `Servable` says on the path alone
whether a gateway can be built for it that answers at this path as the webhook and at the fixed paths as
before. A path that is not servable is refused by nothing but the routes and the requests: either the
gateway cannot be built, or its webhook is not found at its own path, or no request can name this path.
-/
namespace PresenceGateway.Gateway

open Http (Pattern RouteTree)

/-! ### What is asked of a gateway -/

/-- That requests can name the webhook path of a gateway as their target and that the gateway answers
them as the webhook does, and requests at the fixed paths as their endpoints do. -/
structure Serves (gateway : Gateway) (settings : Webhook.Settings) : Prop where
  echoes : ∀ body : List UInt8, ∃ request,
    Http.Request.ofTarget? "GET" settings.path body = some request ∧
      ∀ (arrival : Arrival) (queue : Dispatch.Queue), arrival.request = request →
        gateway.handle arrival queue = Webhook.echo settings queue
  ingests : ∀ body : List UInt8, body.length ≤ bodyLimit → ∃ request,
    Http.Request.ofTarget? "POST" settings.path body = some request ∧
      ∀ (arrival : Arrival) (queue : Dispatch.Queue), arrival.request = request →
        gateway.handle arrival queue = Webhook.ingest Dispatch.submit settings
          { traceId := arrival.traceId
            ingressTime := arrival.ingressTime
            normalizerTime := arrival.normalizerTime
            body } queue
  keeps : ∀ entry ∈ Endpoint.fixed, ∀ (arrival : Arrival) (queue : Dispatch.Queue),
    arrival.request.method = "GET" → arrival.request.path = entry.1 →
    gateway.handle arrival queue = gateway.answer arrival queue entry.2

/-- That a gateway can be built which serves. -/
def Starts (settings : Webhook.Settings) : Prop :=
  ∃ gateway, build? settings = some gateway ∧ gateway.Serves settings

/-- That a pattern asks for the rest of a path behind a slash, or where a fixed path goes on. -/
def Placed (pattern : Pattern) : Prop :=
  ∀ front c, pattern = front ++ [.char c, .rest] →
    c = '/' ∨ ∃ entry ∈ Endpoint.fixed, front ++ [.char c] <+: Pattern.literal entry.1.toList

/-- What a request asks beside its path when its target is a text. -/
def queryOf (cs : List Char) : List Char :=
  (cs.takeWhile (· ≠ '#')).dropWhile (· ≠ '?')

/-- That a request can have a path as its target: the path is not too long and nothing in it, up to a
number sign, must be written in percent signs. -/
structure Nameable (path : String) : Prop where
  short : path.utf8ByteSize ≤ Http.targetLimit
  clean : ∀ c ∈ Pattern.cut path.toList, Http.isPathChar c = true
  asked : ∀ c ∈ queryOf path.toList, Http.isQueryChar c = true

/-- What a path must be for the webhook, given how it is read as a pattern. No `?` or `#` may stand
anywhere but in the name of a last wildcard. -/
structure ServableAs (path : String) (pattern : Pattern) : Prop where
  reads : Pattern.Reads path.toList pattern
  few : pattern.count .segment ≤ Pattern.segmentLimit
  placed : Placed pattern
  free : ∀ entry ∈ Endpoint.fixed, path ≠ entry.1
  uncut : Pattern.Uncut path.toList
  nameable : Nameable path

def Servable (path : String) : Prop :=
  ∃ pattern, ServableAs path pattern

/-! ### The routes -/

def fixedRoutes : List (Pattern × Endpoint) :=
  Endpoint.fixed.map fun entry => (Pattern.literal entry.1.toList, entry.2)

/-- The routes of a gateway before those of its webhook. -/
def fixedTree : RouteTree Endpoint :=
  .static ['/'] none
    (.static "healthz".toList (some .health) .nil
      (.static "metrics".toList (some .metrics) .nil
        (.static "_debug/tap".toList (some .tap) .nil .nil)))
    .nil

theorem fixedTree_built : RouteTree.ofList? fixedRoutes = some fixedTree :=
  rfl

theorem fixed_plain :
    ∀ entry ∈ Endpoint.fixed, ∀ c ∈ entry.1.toList, Pattern.isMark c = false := by
  have checked : (Endpoint.fixed.all fun entry => entry.1.toList.all fun c => !Pattern.isMark c) =
      true := by
    decide
  intro entry listed c inside
  simpa using List.all_eq_true.mp (List.all_eq_true.mp checked entry listed) c inside

theorem fixed_slashed : ∀ entry ∈ Endpoint.fixed, entry.1.toList.head? = some '/' := by
  decide

theorem fixed_ne_webhook : ∀ entry ∈ Endpoint.fixed, entry.2 ≠ .webhook := by
  decide

theorem parse?_fixed {entry : String × Endpoint} (inside : entry ∈ Endpoint.fixed) :
    Pattern.parse? entry.1 = some (Pattern.literal entry.1.toList) := by
  refine (Pattern.parse?_eq_some_iff _ _).mpr
    ⟨fixed_slashed entry inside, Pattern.reads_literal (fixed_plain entry inside), ?_⟩
  rw [Pattern.count_segment_literal]
  exact Nat.zero_le _

theorem mem_fixedRoutes {pattern : Pattern} {endpoint : Endpoint} :
    (pattern, endpoint) ∈ fixedRoutes ↔
      ∃ entry ∈ Endpoint.fixed, pattern = Pattern.literal entry.1.toList ∧ endpoint = entry.2 := by
  unfold fixedRoutes
  rw [List.mem_map]
  constructor
  · rintro ⟨entry, inside, same⟩
    cases same
    exact ⟨entry, inside, rfl, rfl⟩
  · rintro ⟨entry, inside, rfl, rfl⟩
    exact ⟨entry, inside, rfl⟩

theorem fixedRoutes_proper : ∀ route ∈ fixedRoutes, route.1.Proper ∧ route.1 ≠ [] := by
  rintro ⟨pattern, endpoint⟩ inside
  obtain ⟨entry, listed, rfl, rfl⟩ := mem_fixedRoutes.mp inside
  refine ⟨(Pattern.reads_literal (fixed_plain entry listed)).proper, Pattern.literal_ne_nil ?_⟩
  intro empty
  have slashed := fixed_slashed entry listed
  rw [empty] at slashed
  cases slashed

theorem mapM_parse?_fixed (entries : List (String × Endpoint))
    (listed : ∀ entry ∈ entries, entry ∈ Endpoint.fixed) :
    entries.mapM (fun entry => (Pattern.parse? entry.1).map (·, entry.2)) =
      some (entries.map fun entry => (Pattern.literal entry.1.toList, entry.2)) := by
  induction entries with
  | nil => rfl
  | cons entry entries ih =>
      obtain ⟨first, others⟩ := List.forall_mem_cons.mp listed
      rw [List.mapM_cons, parse?_fixed first, ih others]
      rfl

theorem routes?_eq (path : String) :
    routes? path = (Pattern.parse? path).bind fun pattern =>
      RouteTree.ofList? (fixedRoutes ++ [(pattern, .webhook)]) := by
  unfold routes?
  simp only [List.mapM_append, mapM_parse?_fixed _ fun _ => id, List.mapM_cons, List.mapM_nil]
  cases Pattern.parse? path with
  | none => rfl
  | some pattern => rfl

theorem ofList?_fixedRoutes (pattern : Pattern) :
    RouteTree.ofList? (fixedRoutes ++ [(pattern, .webhook)]) =
      RouteTree.add? .webhook pattern fixedTree := by
  have fixed := fixedTree_built
  unfold RouteTree.ofList? at fixed ⊢
  rw [List.foldlM_append, fixed]
  cases added : RouteTree.add? Endpoint.webhook pattern fixedTree with
  | none => simp [added]
  | some tree => simp [added]

/-- The routes of a gateway are the fixed ones and that of its webhook. -/
theorem routes?_fixed_and_own {path : String} {tree : RouteTree Endpoint} (built : routes? path = some tree) :
    ∃ pattern, Pattern.parse? path = some pattern ∧ tree.Formed ∧
      tree.routes.Perm (fixedRoutes ++ [(pattern, .webhook)]) := by
  rw [routes?_eq] at built
  obtain ⟨pattern, parsed, built⟩ := Option.bind_eq_some_iff.mp built
  refine ⟨pattern, parsed, RouteTree.ofList?_routes ?_ built⟩
  intro route inside
  rcases List.mem_append.mp inside with fixed | webhook
  · exact fixedRoutes_proper route fixed
  · cases List.mem_singleton.mp webhook
    obtain ⟨slashed, reads, _⟩ := (Pattern.parse?_eq_some_iff _ _).mp parsed
    refine ⟨reads.proper, ?_⟩
    rintro rfl
    rw [reads.eq_nil] at slashed
    cases slashed

theorem fixedTree_formed : fixedTree.Formed :=
  (RouteTree.ofList?_routes fixedRoutes_proper fixedTree_built).1

theorem fixedTree_plain : fixedTree.Plain := by
  refine .static ⟨_, List.mem_cons_self⟩ ?_ .nil
  refine .static ⟨_, List.mem_cons_self⟩ .nil ?_
  refine .static ⟨_, List.mem_cons_self⟩ .nil ?_
  exact .static ⟨_, List.mem_cons_self⟩ .nil .nil

theorem taken_iff {path : String} {pattern : Pattern} (parsed : Pattern.parse? path = some pattern) :
    fixedTree.Taken pattern ↔ ∃ entry ∈ Endpoint.fixed, path = entry.1 := by
  constructor
  · rintro ⟨endpoint, inside⟩
    obtain ⟨entry, listed, rfl, _⟩ := mem_fixedRoutes.mp inside
    obtain ⟨_, reads, _⟩ := (Pattern.parse?_eq_some_iff _ _).mp parsed
    exact ⟨entry, listed, String.toList_injective reads.of_literal⟩
  · rintro ⟨entry, listed, rfl⟩
    rw [parse?_fixed listed] at parsed
    cases parsed
    exact ⟨entry.2, mem_fixedRoutes.mpr ⟨entry, listed, rfl, rfl⟩⟩

theorem reached_iff (pattern : Pattern) :
    fixedTree.Reached pattern ↔
      ∃ entry ∈ Endpoint.fixed, pattern <+: Pattern.literal entry.1.toList := by
  constructor
  · rintro ⟨⟨whole, endpoint⟩, inside, before⟩
    obtain ⟨entry, listed, rfl, _⟩ := mem_fixedRoutes.mp inside
    exact ⟨entry, listed, before⟩
  · rintro ⟨entry, listed, before⟩
    exact ⟨_, mem_fixedRoutes.mpr ⟨entry, listed, rfl, rfl⟩, before⟩

theorem not_misplaced_iff (pattern : Pattern) :
    ¬fixedTree.Misplaced pattern ↔ Placed pattern := by
  constructor
  · intro fits front c split
    by_cases slash : c = '/'
    · exact .inl slash
    · refine .inr ((reached_iff _).mp ?_)
      apply Classical.byContradiction
      intro unreached
      exact fits ⟨front, c, split, slash, unreached⟩
  · rintro fits ⟨front, c, split, notSlash, unreached⟩
    rcases fits front c split with slash | reached
    · exact notSlash slash
    · exact unreached ((reached_iff _).mpr reached)

/-- Routes are there for every path that can be read, is none of the fixed ones and does not ask for the
rest of a path in the wrong place. -/
theorem routes?_isSome_iff (path : String) :
    (routes? path).isSome ↔ ∃ pattern, Pattern.parse? path = some pattern ∧
      (∀ entry ∈ Endpoint.fixed, path ≠ entry.1) ∧ Placed pattern := by
  have added {pattern : Pattern} (parsed : Pattern.parse? path = some pattern) :
      (routes? path).isSome ↔ ¬fixedTree.Taken pattern ∧ ¬fixedTree.Misplaced pattern := by
    obtain ⟨slashed, reads, _⟩ := (Pattern.parse?_eq_some_iff _ _).mp parsed
    have patternSome : pattern ≠ [] := by
      rintro rfl
      rw [reads.eq_nil] at slashed
      cases slashed
    have refused : RouteTree.add? Endpoint.webhook pattern fixedTree = none ↔ _ :=
      RouteTree.add?_eq_none_iff fixedTree_plain fixedTree_formed reads.proper patternSome
    rw [routes?_eq, parsed, Option.bind_some, ofList?_fixedRoutes, ← not_or, ← refused]
    exact Option.ne_none_iff_isSome.symm
  constructor
  · intro some
    cases parsed : Pattern.parse? path with
    | none =>
        rw [routes?_eq, parsed] at some
        cases some
    | some pattern =>
        obtain ⟨free, fits⟩ := (added parsed).mp some
        rw [taken_iff parsed] at free
        exact ⟨pattern, rfl, fun entry listed same => free ⟨entry, listed, same⟩,
          (not_misplaced_iff pattern).mp fits⟩
  · rintro ⟨pattern, parsed, free, fits⟩
    refine (added parsed).mpr ⟨?_, (not_misplaced_iff pattern).mpr fits⟩
    rw [taken_iff parsed]
    rintro ⟨entry, listed, same⟩
    exact free entry listed same

/-! ### Requests -/

theorem readPathAndQuery?_eq_some_iff {cs : List Char} {said : String × Option String} :
    Http.readPathAndQuery? cs = some said ↔
      (∀ c ∈ Pattern.cut cs, Http.isPathChar c = true) ∧
      (∀ c ∈ queryOf cs, Http.isQueryChar c = true) ∧
      said = (String.ofList (Pattern.cut cs), (queryOf cs).tail?.map String.ofList) := by
  change (if (Pattern.cut cs).all Http.isPathChar && (queryOf cs).all Http.isQueryChar then
    some (String.ofList (Pattern.cut cs), (queryOf cs).tail?.map String.ofList) else none) = _ ↔ _
  rw [Option.ite_none_right_eq_some, Bool.and_eq_true, List.all_eq_true, List.all_eq_true, and_assoc,
    Option.some.injEq, eq_comm (b := said)]

/-- A path can be the target of a request exactly when it is nameable. -/
theorem ofTarget?_eq_some_iff {path : String} (slashed : path.toList.head? = some '/')
    {method : String} {body : List UInt8} {request : Http.Request} :
    Http.Request.ofTarget? method path body = some request ↔
      Nameable path ∧ request =
        { method
          path := String.ofList (Pattern.cut path.toList)
          query := (queryOf path.toList).tail?.map String.ofList
          body } := by
  obtain ⟨cs, starts⟩ := List.head?_eq_some_iff.mp slashed
  have read : Http.readTarget? path =
      if path.utf8ByteSize ≤ Http.targetLimit then Http.readPathAndQuery? path.toList else none := by
    rw [Http.readTarget?, starts]
    rfl
  rw [Http.Request.ofTarget?, read, Option.map_eq_some_iff]
  constructor
  · rintro ⟨said, found, rfl⟩
    rw [Option.ite_none_right_eq_some, readPathAndQuery?_eq_some_iff] at found
    obtain ⟨short, clean, asked, rfl⟩ := found
    exact ⟨⟨short, clean, asked⟩, rfl⟩
  · rintro ⟨nameable, rfl⟩
    have found := readPathAndQuery?_eq_some_iff.mpr ⟨nameable.clean, nameable.asked, rfl⟩
    exact ⟨_, (if_pos nameable.short).trans found, rfl⟩

section Handle

variable {gateway : Gateway} {arrival : Arrival} {endpoint : Endpoint}

theorem handle_get (got : arrival.request.method = "GET")
    (found : gateway.endpoint? arrival.request.path = some endpoint) (queue : Dispatch.Queue) :
    gateway.handle arrival queue = gateway.answer arrival queue endpoint := by
  have allowed : "GET" ∈ endpoint.methods := by cases endpoint <;> decide
  unfold handle
  rw [found, got]
  dsimp only
  rw [if_pos allowed, if_neg (by decide)]

theorem handle_post (posted : arrival.request.method = "POST")
    (found : gateway.endpoint? arrival.request.path = some .webhook) (queue : Dispatch.Queue) :
    gateway.handle arrival queue = gateway.answer arrival queue .webhook := by
  unfold handle
  rw [found, posted]
  dsimp only
  rw [if_pos (by decide), if_neg (by decide)]

/-- No other endpoint answers as the webhook does: it alone answers with a plain text. -/
theorem endpoint?_of_echo (got : arrival.request.method = "GET") {queue : Dispatch.Queue}
    {settings : Webhook.Settings}
    (echoed : gateway.handle arrival queue = Webhook.echo settings queue) :
    gateway.endpoint? arrival.request.path = some .webhook := by
  have plain : (gateway.handle arrival queue).response.contentType = some "text/plain" := by
    rw [echoed]
    rfl
  cases found : gateway.endpoint? arrival.request.path with
  | none =>
      unfold handle at plain
      rw [found] at plain
      cases plain
  | some endpoint =>
      rw [handle_get got found] at plain
      cases endpoint with
      | webhook => rfl
      | health => cases plain
      | metrics =>
          have different : "text/plain; version=0.0.4" ≠ "text/plain" := by decide
          exact absurd (Option.some.inj plain) different
      | tap =>
          change (tapResponse arrival.request.query).contentType = _ at plain
          unfold tapResponse at plain
          split at plain
          · have different : Http.Response.plainText ≠ "text/plain" := by decide
            exact absurd (Option.some.inj plain) different
          · have different : Http.Response.eventStream ≠ "text/plain" := by decide
            exact absurd (Option.some.inj plain) different

end Handle

/-! ### Serving -/

theorem build?_eq_some {settings : Webhook.Settings} {gateway : Gateway}
    (built : build? settings = some gateway) :
    gateway.settings = settings ∧ routes? settings.path = some gateway.routes := by
  obtain ⟨routes, made, rfl⟩ := Option.map_eq_some_iff.mp built
  exact ⟨rfl, made⟩

theorem Serves.of_finds {gateway : Gateway}
    (slashed : gateway.settings.path.toList.head? = some '/')
    (nameable : Nameable gateway.settings.path)
    (own : gateway.endpoint? (String.ofList (Pattern.cut gateway.settings.path.toList)) =
      some .webhook)
    (fixed : ∀ entry ∈ Endpoint.fixed, gateway.endpoint? entry.1 = some entry.2) :
    gateway.Serves gateway.settings where
  echoes := by
    intro body
    refine ⟨_, (ofTarget?_eq_some_iff slashed).mpr ⟨nameable, rfl⟩, ?_⟩
    intro arrival queue asked
    have got : arrival.request.method = "GET" := by
      rw [asked]
    have found : gateway.endpoint? arrival.request.path = some .webhook := by
      rw [asked]
      exact own
    rw [handle_get got found]
    unfold answer
    rw [got]
    exact if_neg (by decide)
  ingests := by
    intro body short
    refine ⟨_, (ofTarget?_eq_some_iff slashed).mpr ⟨nameable, rfl⟩, ?_⟩
    intro arrival queue asked
    have posted : arrival.request.method = "POST" := by
      rw [asked]
    have given : arrival.request.body = body := by
      rw [asked]
    have found : gateway.endpoint? arrival.request.path = some .webhook := by
      rw [asked]
      exact own
    rw [handle_post posted found]
    unfold answer
    rw [posted, given]
    exact (if_pos rfl).trans (if_pos short)
  keeps := by
    intro entry listed arrival queue got at_
    exact handle_get got (at_ ▸ fixed entry listed) queue

/-- A gateway for a servable path can be built, and it serves. -/
theorem starts_of_servable {settings : Webhook.Settings}
    (slashed : settings.path.toList.head? = some '/') (servable : Servable settings.path) :
    Starts settings := by
  obtain ⟨pattern, as⟩ := servable
  have parsed : Pattern.parse? settings.path = some pattern :=
    (Pattern.parse?_eq_some_iff _ _).mpr ⟨slashed, as.reads, as.few⟩
  obtain ⟨routes, made⟩ := Option.isSome_iff_exists.mp
    ((routes?_isSome_iff settings.path).mpr ⟨pattern, parsed, as.free, as.placed⟩)
  obtain ⟨other, otherParsed, formed, perm⟩ := routes?_fixed_and_own made
  obtain rfl := Option.some.inj (otherParsed.symm.trans parsed)
  have built : build? settings = some { settings, routes } := by
    rw [build?, made]
    rfl
  refine ⟨_, built, .of_finds slashed as.nameable ?_ ?_⟩
  · have listed : (other, Endpoint.webhook) ∈ fixedRoutes ++ [(other, .webhook)] :=
      List.mem_append_right _ List.mem_cons_self
    refine RouteTree.find?_eq_some_iff.mpr ?_
    rw [String.toList_ofList]
    exact RouteTree.search_complete formed (perm.mem_iff.mpr listed) (as.reads.spells_cut as.uncut)
  · intro entry listed
    have inside : (Pattern.literal entry.1.toList, entry.2) ∈ fixedRoutes ++ [(other, .webhook)] :=
      List.mem_append_left _ (mem_fixedRoutes.mpr ⟨entry, listed, rfl, rfl⟩)
    exact RouteTree.find?_eq_some_iff.mpr
      (RouteTree.search_complete formed (perm.mem_iff.mpr inside)
        (.literal (fixed_plain entry listed)))

/-- A gateway that serves has a servable path. -/
theorem servable_of_starts {settings : Webhook.Settings}
    (slashed : settings.path.toList.head? = some '/') (starts : Starts settings) :
    Servable settings.path := by
  obtain ⟨gateway, built, serves⟩ := starts
  obtain ⟨rfl, made⟩ := build?_eq_some built
  obtain ⟨pattern, parsed, free, placed⟩ :=
    (routes?_isSome_iff gateway.settings.path).mp (Option.isSome_iff_exists.mpr ⟨_, made⟩)
  obtain ⟨_, reads, few⟩ := (Pattern.parse?_eq_some_iff _ _).mp parsed
  obtain ⟨request, named, echoed⟩ := serves.echoes []
  obtain ⟨nameable, same⟩ := (ofTarget?_eq_some_iff slashed).mp named
  refine ⟨pattern, reads, few, placed, free, reads.uncut_of_matches ?_, nameable⟩
  obtain ⟨other, otherParsed, formed, perm⟩ := routes?_fixed_and_own made
  obtain rfl := Option.some.inj (otherParsed.symm.trans parsed)
  let arrival : Arrival :=
    { request, traceId := "", ingressTime := .zero false, normalizerTime := .zero false }
  let queue : Dispatch.Queue :=
    { limits := .default, isOpen := false, waiting := [], worker := .drained, running := [] }
  -- What is answered tells which endpoint was found, and with it which pattern the path follows.
  have got : arrival.request.method = "GET" := congrArg Http.Request.method same
  have found : gateway.endpoint? request.path = some .webhook :=
    endpoint?_of_echo got (echoed arrival queue rfl)
  rw [same] at found
  obtain ⟨matched, inside, followed⟩ :=
    RouteTree.search_sound formed (RouteTree.find?_eq_some_iff.mp found)
  rw [String.toList_ofList] at followed
  rcases List.mem_append.mp (perm.mem_iff.mp inside) with fixed | webhook
  · obtain ⟨entry, listed, _, same⟩ := mem_fixedRoutes.mp fixed
    exact absurd same.symm (fixed_ne_webhook entry listed)
  · cases List.mem_singleton.mp webhook
    exact followed

/-! ### Configurations -/

theorem readPath?_slashed {text path : String} (read : Config.readPath? text = some path) :
    path.toList.head? = some '/' := by
  unfold Config.readPath? at read
  split at read
  · rename_i slashed
    cases read
    exact slashed
  · cases read

theorem slashed_of_load {environment : Environment} {config : Config}
    (loaded : Config.load environment = .ok config) :
    config.webhook.path.toList.head? = some '/' := by
  obtain ⟨_, _, webhookRead, _⟩ := Config.load_eq_ok_iff.mp loaded
  obtain ⟨_, _, webhookRead⟩ := bind_eq_ok_iff.mp webhookRead
  obtain ⟨_, _, webhookRead⟩ := bind_eq_ok_iff.mp webhookRead
  obtain ⟨path, pathRead, webhookRead⟩ := bind_eq_ok_iff.mp webhookRead
  obtain ⟨_, _, webhookRead⟩ := bind_eq_ok_iff.mp webhookRead
  rw [← Except.ok.inj webhookRead]
  rcases Config.meaning_eq_ok_iff.mp pathRead with ⟨_, rfl⟩ | ⟨_, path, _, parsed, rfl⟩
  · change "/api/meraki".toList.head? = some '/'
    decide
  · exact readPath?_slashed parsed

theorem nameable_of_whole {path : String} (whole : ∀ c ∈ path.toList, ¬Pattern.Cuts c)
    (short : path.utf8ByteSize ≤ Http.targetLimit)
    (clean : ∀ c ∈ path.toList, Http.isPathChar c = true) : Nameable path where
  short := short
  clean := fun c inside => clean c (Pattern.cut_subset _ inside)
  asked := by
    have none : queryOf path.toList = [] := by
      rw [queryOf, List.dropWhile_eq_nil_iff]
      intro c inside
      have kept := whole c ((List.takeWhile_prefix _).subset inside)
      simpa using fun query : c = '?' => kept (.inl query)
    rw [none]
    exact List.forall_mem_nil _

/-- A short path that neither has wildcards nor is cut, has nothing that must be written in percent
signs and is none of the fixed ones, is servable. -/
theorem servable_of_plain {path : String} (plain : ∀ c ∈ path.toList, Pattern.isMark c = false)
    (whole : ∀ c ∈ path.toList, ¬Pattern.Cuts c) (short : path.utf8ByteSize ≤ Http.targetLimit)
    (clean : ∀ c ∈ path.toList, Http.isPathChar c = true)
    (free : ∀ entry ∈ Endpoint.fixed, path ≠ entry.1) : Servable path := by
  refine ⟨Pattern.literal path.toList, Pattern.reads_literal plain, ?_, ?_, free, .inl whole,
    nameable_of_whole whole short clean⟩
  · rw [Pattern.count_segment_literal]
    exact Nat.zero_le _
  · intro front c split
    exact absurd split Pattern.literal_ne_hanging

/-- Under a configuration that is accepted, the gateway starts exactly when its webhook path is
servable. -/
theorem starts_iff_servable (environment : Environment) (config : Config)
    (loaded : Config.load environment = .ok config) :
    Starts config.webhook ↔ Servable config.webhook.path :=
  ⟨servable_of_starts (slashed_of_load loaded), starts_of_servable (slashed_of_load loaded)⟩

def environmentWith (path : String) : Environment :=
  { values := [("MERAKI_VALIDATOR", "v"), ("MERAKI_SECRET", "s"), ("MERAKI_WEBHOOK_PATH", path)] }

theorem starts_iff_servable_of_plain_path :
    ∃ config, Config.load (environmentWith "/hooks/cmx") = .ok config ∧
      config.webhook.path = "/hooks/cmx" ∧ Starts config.webhook := by
  obtain ⟨config, loaded, path⟩ : ∃ config, Config.load (environmentWith "/hooks/cmx") = .ok config ∧
      config.webhook.path = "/hooks/cmx" := ⟨_, rfl, rfl⟩
  have plain : ("/hooks/cmx".toList.all fun c => !Pattern.isMark c) = true := by decide
  have whole : ("/hooks/cmx".toList.all fun c => !decide (Pattern.Cuts c)) = true := by decide
  refine ⟨config, loaded, path, (starts_iff_servable _ config loaded).mpr ?_⟩
  rw [path]
  apply servable_of_plain
  · exact fun c inside => by simpa using List.all_eq_true.mp plain c inside
  · exact fun c inside => by simpa using List.all_eq_true.mp whole c inside
  · decide
  · have clean : ("/hooks/cmx".toList.all Http.isPathChar) = true := by decide
    exact List.all_eq_true.mp clean
  · decide

/-- The path of another endpoint is accepted as the webhook path, but then no gateway can be built. -/
theorem accepted_path_without_gateway :
    ∃ config, Config.load (environmentWith "/healthz") = .ok config ∧
      build? config.webhook = none ∧ ¬Starts config.webhook := by
  obtain ⟨config, loaded, path⟩ : ∃ config, Config.load (environmentWith "/healthz") = .ok config ∧
      config.webhook.path = "/healthz" := ⟨_, rfl, rfl⟩
  have refused : build? config.webhook = none := by
    rw [build?, path, Option.map_eq_none_iff, ← Option.not_isSome_iff_eq_none, routes?_isSome_iff]
    rintro ⟨_, _, free, _⟩
    exact free ("/healthz", .health) (by decide) rfl
  refine ⟨config, loaded, refused, ?_⟩
  rintro ⟨gateway, built, _⟩
  rw [refused] at built
  cases built

end PresenceGateway.Gateway
