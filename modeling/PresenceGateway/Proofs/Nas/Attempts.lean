import PresenceGateway.Proofs.Nas.Seconds
import PresenceGateway.Proofs.Nas.Registry
/-!
The attempts of a supervisor at setting its entry up, one after the other. Each starts from the entry and
the world that the one before has left, and has its calls made in the second in which it starts.
-/
namespace PresenceGateway.Nas

variable {Handle World : Type}

/-! ### What a setup keeps -/

def Program.Ends {Result : Type} (wanted : Result → Prop) : Program Handle Result → Prop
  | .done result => wanted result
  | .call _ _ next => ∀ reply, (next reply).Ends wanted
  | .available _ next => ∀ names, (next names).Ends wanted

theorem Program.Ends.run {Result : Type} {wanted : Result → Prop} {program : Program Handle Result}
    (ends : program.Ends wanted) (interface : Api Handle World) (world : World) :
    wanted (program.run interface world).1 := by
  induction program generalizing world with
  | done result => exact ends
  | call api what next ih => exact ih _ (ends _) _
  | available api next ih => exact ih _ (ends _) _

namespace Setup

variable {entry : Entry} {api : Handle} (kept : Entry → Prop)

theorem attempt_keeps {what : Call} {next : what.Reply → Program Handle (SetupResult Handle)}
    (now : kept entry) (later : ∀ answer, (next answer).Ends fun result => kept result.1) :
    (attempt entry api what next).Ends fun result => kept result.1 := by
  intro reply
  cases reply with
  | error cause => exact now
  | ok answer => exact later answer

theorem withMacs_keeps {next : Entry → Program Handle (SetupResult Handle)} (now : kept entry)
    (told : ∀ macs, kept { entry with data := { entry.data with macs } })
    (later : ∀ after : Entry, kept after → (next after).Ends fun result => kept result.1) :
    (withMacs entry api next).Ends fun result => kept result.1 := by
  unfold withMacs
  split
  · exact attempt_keeps kept now fun macs => later _ (told macs)
  · exact later entry now

theorem withCameras_keeps {offered : List String}
    {next : Option Coordinator → Program Handle (SetupResult Handle)} (now : kept entry)
    (later : ∀ cameras, (next cameras).Ends fun result => kept result.1) :
    (withCameras entry api offered next).Ends fun result => kept result.1 := by
  unfold withCameras
  split
  · exact attempt_keeps kept now fun data => later _
  · exact later none

theorem withSwitches_keeps {offered : List String}
    {next : Option Coordinator → Program Handle (SetupResult Handle)} (now : kept entry)
    (later : ∀ switches, (next switches).Ends fun result => kept result.1) :
    (withSwitches entry api offered next).Ends fun result => kept result.1 := by
  unfold withSwitches
  split
  · exact attempt_keeps kept now fun data => attempt_keeps kept now fun prepared => later _
  · exact later none

/-- What is left of a setup once the network addresses are known. -/
def afterMacs (entry : Entry) (api : Handle) : Program Handle (SetupResult Handle) :=
  firstRefresh entry api .central fun central =>
    .available api fun offered =>
      withCameras entry api offered fun cameras =>
        withSwitches entry api offered fun switches =>
          .done (entry, .ok { api, central, cameras, switches })

theorem afterMacs_keeps (now : kept entry) :
    (afterMacs entry api).Ends fun result => kept result.1 :=
  attempt_keeps kept now fun _ _ =>
    withCameras_keeps kept now fun _ => withSwitches_keeps kept now fun _ => now

def KeepsId (id : String) (result : SetupResult Handle) : Prop :=
  result.1.uniqueId = id

theorem setupEntry_keepsId (entry : Entry) (api : Handle) :
    (setupEntry entry api).Ends (KeepsId entry.uniqueId) := by
  have migrated : entry.migrated.uniqueId = entry.uniqueId := rfl
  apply attempt_keeps (·.uniqueId = entry.uniqueId) migrated
  intro opened
  apply withMacs_keeps (·.uniqueId = entry.uniqueId) migrated
  · exact fun macs => migrated
  · exact fun after same => afterMacs_keeps (·.uniqueId = entry.uniqueId) same

end Setup

/-- The runtime of a setup is that of its interface, and its coordinators hold what the setup has
fetched. -/
theorem runtime_of_setup {interface : Api Handle World} {entry : Entry} {api : Handle} {world : World}
    {runtime : Runtime Handle}
    (succeeded : ((setupEntry entry api).run interface world).1.2 = .ok runtime) :
    runtime.api = api ∧ ∀ domain, runtime.coordinator? domain =
      (fetched? domain ((setupEntry entry api).answers interface world)).map
        (Setup.holding domain) := by
  have goes := Setup.setupEntry_goes interface entry api world
  have all : ∀ answered ∈ (setupEntry entry api).answers interface world,
      answered.succeeded = true := by
    intro answered inside
    obtain ⟨handle, what, reply⟩ := answered
    cases reply with
    | ok answer => rfl
    | error cause =>
        obtain rfl : handle = api := goes.follows.onApi _ inside
        have failed := goes.failure what cause inside
        rw [succeeded] at failed
        cases failed
  obtain ⟨found, isOk, sameApi, holds⟩ := goes.success all
  rw [succeeded] at isOk
  cases isOk
  exact ⟨sameApi, holds⟩

/-- A setup makes none of its calls twice. -/
theorem setupEntry_asks_once (interface : Api Handle World) (entry : Entry) (api : Handle)
    (world : World) : (((setupEntry entry api).answers interface world).map (·.what)).Nodup :=
  (Setup.setupEntry_goes interface entry api world).follows.inOrder.sublist.nodup
    (Setup.plan_nodup entry _)

/-- A setup opens the session once, with its first call. -/
theorem setupEntry_opens_once (interface : Api Handle World) (entry : Entry) (api : Handle)
    (world : World) :
    ((setupEntry entry api).calls interface world).filter (fun call => call.2 = .setup) =
      [(api, .setup)] := by
  have once : (((setupEntry entry api).calls interface world).map (·.2)).Nodup := by
    rw [Program.calls_eq_answers, List.map_map]
    exact setupEntry_asks_once interface entry api world
  rw [setupEntry_eq, Program.calls, List.map_cons, List.nodup_cons] at once
  rw [setupEntry_eq, Program.calls, List.filter_cons_of_pos (by simp)]
  refine congrArg ((api, Call.setup) :: ·) (List.filter_eq_nil_iff.mpr fun call inside => ?_)
  intro again
  exact once.1 (List.mem_map.mpr ⟨call, inside, of_decide_eq_true again⟩)

/-! ### One attempt after the other -/

/-- What a supervisor is started with: an interface and its handle, an entry, and the world. -/
structure Setting (Handle World : Type) where
  interface : Api Handle World
  api : Handle
  entry : Entry
  world : World

namespace Setting

variable (setting : Setting Handle World)

def before : Nat → Entry × World
  | 0 => (setting.entry, setting.world)
  | k + 1 =>
    let ended := (setupEntry (before k).1 setting.api).run setting.interface (before k).2
    (ended.1.1, ended.2)

def ending (k : Nat) : Except SetupError (Runtime Handle) :=
  ((setupEntry (setting.before k).1 setting.api).run setting.interface (setting.before k).2).1.2

def answers (k : Nat) : List (Answered Handle) :=
  (setupEntry (setting.before k).1 setting.api).answers setting.interface (setting.before k).2

def NotReady (k : Nat) : Prop :=
  ∃ reason, setting.ending k = .error (.notReady reason)

def NotReadyBefore (n : Nat) : Prop :=
  ∀ k < n, setting.NotReady k

def attemptCalls (k : Nat) : List (Nat × Call) :=
  ((setupEntry (setting.before k).1 setting.api).calls setting.interface (setting.before k).2).map
    fun call => (retryDelay * k, call.2)

def attempts : Nat → List (Nat × Call)
  | 0 => []
  | n + 1 => attempts n ++ setting.attemptCalls n

end Setting

def timesOf (what : Call) (calls : List (Nat × Call)) : List Nat :=
  (calls.filter fun call => call.2 = what).map (·.1)

theorem timesOf_append (what : Call) (first second : List (Nat × Call)) :
    timesOf what (first ++ second) = timesOf what first ++ timesOf what second := by
  unfold timesOf
  rw [List.filter_append, List.map_append]

namespace Setting

variable (setting : Setting Handle World)

/-- The attempts begin at the multiples of the delay between them. -/
theorem timesOf_setup_attempts (n : Nat) :
    timesOf .setup (setting.attempts n) = (List.range n).map (retryDelay * ·) := by
  induction n with
  | zero => rfl
  | succ n ih =>
      have once := setupEntry_opens_once setting.interface (setting.before n).1 setting.api
        (setting.before n).2
      have here : timesOf .setup (setting.attemptCalls n) = [retryDelay * n] := by
        unfold timesOf attemptCalls
        rw [List.filter_map]
        exact congrArg (fun calls : List (Handle × Call) =>
          (calls.map fun call => (retryDelay * n, call.2)).map Prod.fst) once
      rw [attempts, timesOf_append, ih, here, List.range_succ, List.map_append]
      rfl

theorem before_uniqueId (k : Nat) : (setting.before k).1.uniqueId = setting.entry.uniqueId := by
  induction k with
  | zero => rfl
  | succ k ih =>
      have keeps := (Setup.setupEntry_keepsId (setting.before k).1 setting.api).run
        setting.interface (setting.before k).2
      exact Eq.trans keeps ih

/-- Only one attempt can be the first that ends otherwise than not ready. -/
theorem eq_of_settled {n m : Nat} (before : setting.NotReadyBefore n)
    (settled : ¬ setting.NotReady n) (beforeToo : setting.NotReadyBefore m)
    (settledToo : ¬ setting.NotReady m) : n = m := by
  apply Nat.le_antisymm
  · exact Nat.le_of_not_lt fun less => settledToo (before m less)
  · exact Nat.le_of_not_lt fun less => settled (beforeToo n less)

end Setting

end PresenceGateway.Nas
