import PresenceGateway.Proofs.Config.Loading
import PresenceGateway.Proofs.Decimal.Digits
/-!
The variables of a configuration, in the order in which they are looked at, and what can be wrong with
them. Loading fails exactly when one of them is at fault, and reports the first that is.

Each step of loading looks at some variables in order, and two steps one after the other look at those of
both. So the order of the whole is put together along the steps.
-/
namespace PresenceGateway.Config

/-! ### Variables and their faults -/

/-- The variables that can be at fault. -/
inductive Variable where
  | mode
  | address
  | validator
  | secret
  | path
  | policy
  | capacity
  | inFlight
  | port
  | useHttps
  | verifySsl
  | username
  | password
deriving DecidableEq

namespace Variable

def name : Variable → String
  | mode => "APP_ENV"
  | address => "APP_BIND_ADDR"
  | validator => "MERAKI_VALIDATOR"
  | secret => "MERAKI_SECRET"
  | path => "MERAKI_WEBHOOK_PATH"
  | policy => "MERAKI_EMPTY_ATTRIBUTES"
  | capacity => "PRESENCE_QUEUE_CAPACITY"
  | inFlight => "PRESENCE_MAX_IN_FLIGHT"
  | port => "NAS_PORT"
  | useHttps => "NAS_USE_HTTPS"
  | verifySsl => "NAS_VERIFY_SSL"
  | username => "NAS_USERNAME"
  | password => "NAS_PASSWORD"

def needed : List Variable := [validator, secret, username, password]

def Allows : Variable → String → Prop
  | mode, text => text ∈ ["development", "dev", "production", "prod", "test"]
  | address, text => ∃ address, SocketAddress.parse? text = some address
  | path, text => ∃ rest, text.toList = '/' :: rest
  | policy, text => text ∈ ["omit", "preserve"]
  | capacity, text | inFlight, text => ∃ n, Numeral.Spells n text ∧ 0 < n ∧ n < 2 ^ 64
  | port, text => ∃ n, Numeral.Spells n text ∧ n < 2 ^ 16
  | useHttps, text | verifySsl, text =>
    Text.asciiLower text ∈ ["1", "true", "yes", "on", "0", "false", "no", "off"]
  | _, _ => True

/-- What is wrong with a variable. Blanks only count as nothing, but not as a mode or an address. -/
inductive Fault (environment : Environment) : Variable → ConfigError → Prop where
  | mode {value : String} (given : environment.value? mode.name = some value)
      (refused : ¬ mode.Allows value) : Fault environment mode (.unknownMode value)
  | address {value : String} (given : environment.value? address.name = some value)
      (refused : ¬ address.Allows value) : Fault environment address .address
  | missing {v : Variable} (mandatory : v ∈ needed)
      (unset : environment.setting? v.name = none) :
      Fault environment v (.missing v.name)
  | invalid {v : Variable} {value : String} (setting : v ∉ [mode, address])
      (given : environment.setting? v.name = some value) (refused : ¬ v.Allows value) :
      Fault environment v (.invalid v.name value)

def Sound (environment : Environment) (v : Variable) : Prop :=
  ∀ cause, ¬ v.Fault environment cause

end Variable

def always : List Variable :=
  [.mode, .address, .validator, .secret, .path, .policy, .capacity, .inFlight]

def ofNas : List Variable := [.port, .useHttps, .verifySsl, .username, .password]

def consulted (environment : Environment) : List Variable :=
  always ++ if environment.setting? "NAS_HOST" = none then [] else ofNas

/-! ### The first fault -/

variable {environment : Environment} {α β : Type}

/-- The error is what is wrong with the first variable that is at fault. -/
def FirstFault (environment : Environment) (checked : List Variable) (error : ConfigError) : Prop :=
  ∃ before v after, checked = before ++ v :: after ∧
    (∀ earlier ∈ before, earlier.Sound environment) ∧ v.Fault environment error

theorem not_firstFault_nil (error : ConfigError) : ¬ FirstFault environment [] error := by
  rintro ⟨before, v, after, impossible, _⟩
  exact List.append_ne_nil_of_right_ne_nil before (List.cons_ne_nil v after) impossible.symm

theorem firstFault_cons {v : Variable} {rest : List Variable} {error : ConfigError} :
    FirstFault environment (v :: rest) error ↔
      v.Fault environment error ∨
        v.Sound environment ∧ FirstFault environment rest error := by
  constructor
  · rintro ⟨before, found, after, split, sound, fault⟩
    cases before with
    | nil =>
        cases split
        exact .inl fault
    | cons first later =>
        cases split
        obtain ⟨firstSound, laterSound⟩ := List.forall_mem_cons.mp sound
        exact .inr ⟨firstSound, later, found, after, rfl, laterSound, fault⟩
  · rintro (fault | ⟨sound, before, found, after, rfl, earlier, fault⟩)
    · exact ⟨[], v, rest, rfl, List.forall_mem_nil _, fault⟩
    · exact ⟨v :: before, found, after, rfl, List.forall_mem_cons.mpr ⟨sound, earlier⟩, fault⟩

theorem firstFault_append {first second : List Variable} {error : ConfigError} :
    FirstFault environment (first ++ second) error ↔
      FirstFault environment first error ∨
        (∀ v ∈ first, v.Sound environment) ∧ FirstFault environment second error := by
  induction first with
  | nil =>
      rw [List.nil_append, or_iff_right (not_firstFault_nil error)]
      exact (and_iff_right (List.forall_mem_nil _)).symm
  | cons v rest ih =>
      rw [List.cons_append, firstFault_cons, firstFault_cons, ih, List.forall_mem_cons,
        and_or_left, or_assoc, and_assoc]

theorem exists_firstFault_iff {checked : List Variable} :
    (∃ error, FirstFault environment checked error) ↔
      ¬ ∀ v ∈ checked, v.Sound environment := by
  induction checked with
  | nil =>
      refine iff_of_false ?_ (not_not.mpr (List.forall_mem_nil _))
      rintro ⟨error, impossible⟩
      exact not_firstFault_nil error impossible
  | cons v rest ih =>
      simp only [firstFault_cons, exists_or, exists_and_left, ih, List.forall_mem_cons]
      rw [Variable.Sound, ← not_exists, not_and_or, not_not, or_and_left,
        and_iff_right (Classical.em _)]

/-- A step of loading looks at these variables in this order: it fails exactly when one of them is at
fault, with the first fault. -/
def Looks (environment : Environment) (checked : List Variable) (step : Except ConfigError α) : Prop :=
  ∀ error, step = .error error ↔ FirstFault environment checked error

namespace Looks

variable {checked more : List Variable}

theorem ok (result : α) : Looks environment [] (.ok result : Except ConfigError α) :=
  fun error => iff_of_false (fun impossible => by cases impossible) (not_firstFault_nil error)

theorem one {v : Variable} {step : Except ConfigError α}
    (looks : ∀ error, step = .error error ↔ v.Fault environment error) :
    Looks environment [v] step := by
  intro error
  rw [looks, firstFault_cons]
  exact (or_iff_left fun later => not_firstFault_nil error later.2).symm

theorem exists_ok_iff {step : Except ConfigError α} (looks : Looks environment checked step) :
    (∃ result, step = .ok result) ↔ ∀ v ∈ checked, v.Sound environment := by
  rw [← not_iff_not, ← exists_firstFault_iff]
  cases step with
  | ok result =>
      refine iff_of_false (not_not.mpr ⟨result, rfl⟩) ?_
      rintro ⟨error, fault⟩
      cases (looks error).mpr fault
  | error cause =>
      refine iff_of_true ?_ ⟨cause, (looks cause).mp rfl⟩
      rintro ⟨result, impossible⟩
      cases impossible

/-- Two steps one after the other look at the variables of both. -/
theorem bind {first : Except ConfigError α} {second : α → Except ConfigError β}
    (before : Looks environment checked first)
    (after : ∀ result, first = .ok result → Looks environment more (second result)) :
    Looks environment (checked ++ more) (first >>= second) := by
  intro error
  rw [bind_eq_error_iff, firstFault_append, before error]
  refine or_congr_right ?_
  constructor
  · rintro ⟨result, done, fails⟩
    exact ⟨before.exists_ok_iff.mp ⟨result, done⟩, (after result done error).mp fails⟩
  · rintro ⟨sound, fault⟩
    obtain ⟨result, done⟩ := before.exists_ok_iff.mpr sound
    exact ⟨result, done, (after result done error).mpr fault⟩

theorem map {step : Except ConfigError α} (looks : Looks environment checked step) (f : α → β) :
    Looks environment checked (step.map f) := by
  intro error
  rw [← looks]
  cases step with
  | ok result => exact iff_of_false (fun impossible => by cases impossible) nofun
  | error cause => exact ⟨fun same => by cases same; rfl, fun same => by cases same; rfl⟩

end Looks

/-! ### The steps of loading -/

theorem Variable.fault_setting_iff {v : Variable} (setting : v ∉ [mode, address]) {error : ConfigError} :
    v.Fault environment error ↔
      (v ∈ needed ∧ environment.setting? v.name = none ∧ error = .missing v.name) ∨
        ∃ value, environment.setting? v.name = some value ∧ ¬ v.Allows value ∧
          error = .invalid v.name value := by
  constructor
  · intro fault
    cases fault with
    | mode => exact absurd List.mem_cons_self setting
    | address => exact absurd (List.mem_cons_of_mem _ List.mem_cons_self) setting
    | missing mandatory unset => exact .inl ⟨mandatory, unset, rfl⟩
    | invalid _ given refused => exact .inr ⟨_, given, refused, rfl⟩
  · rintro (⟨mandatory, unset, rfl⟩ | ⟨value, given, refused, rfl⟩)
    · exact .missing mandatory unset
    · exact .invalid setting given refused

theorem looks_required {v : Variable} (mandatory : v ∈ Variable.needed) (setting : v ∉ [.mode, .address])
    (all : ∀ text, v.Allows text) : Looks environment [v] (required environment v.name) := by
  apply Looks.one
  intro error
  rw [Variable.fault_setting_iff setting, required]
  cases environment.setting? v.name with
  | none => simp [mandatory, eq_comm]
  | some value => simp [all]

theorem looks_meaning {v : Variable} {parse? : String → Option α} (optional : v ∉ Variable.needed)
    (setting : v ∉ [.mode, .address]) (reads : ∀ text, (∃ a, parse? text = some a) ↔ v.Allows text) :
    Looks environment [v] (meaning environment v.name parse?) := by
  apply Looks.one
  intro error
  rw [Variable.fault_setting_iff setting, meaning]
  cases environment.setting? v.name with
  | none => simp [optional]
  | some value =>
      have allowed := reads value
      cases parsed : parse? value with
      | none =>
          rw [parsed] at allowed
          have refused : ¬ v.Allows value := fun allows => by simpa using allowed.mpr allows
          simp [optional, refused, parsed, eq_comm]
      | some a =>
          have allows : v.Allows value := allowed.mp ⟨a, parsed⟩
          simp [allows, parsed]

theorem Variable.fault_mode_iff {error : ConfigError} :
    mode.Fault environment error ↔
      ∃ value, environment.value? "APP_ENV" = some value ∧ ¬ mode.Allows value ∧
        error = .unknownMode value := by
  constructor
  · intro fault
    cases fault with
    | mode given refused => exact ⟨_, given, refused, rfl⟩
    | missing mandatory => exact absurd mandatory (by decide)
    | invalid setting => exact absurd List.mem_cons_self setting
  · rintro ⟨value, given, refused, rfl⟩
    exact .mode given refused

theorem Variable.fault_address_iff {error : ConfigError} :
    address.Fault environment error ↔
      ∃ value, environment.value? "APP_BIND_ADDR" = some value ∧ ¬ address.Allows value ∧
        error = .address := by
  constructor
  · intro fault
    cases fault with
    | address given refused => exact ⟨_, given, refused, rfl⟩
    | missing mandatory => exact absurd mandatory (by decide)
    | invalid setting => exact absurd (List.mem_cons_of_mem _ List.mem_cons_self) setting
  · rintro ⟨value, given, refused, rfl⟩
    exact .address given refused

theorem looks_readMode : Looks environment [.mode] (readMode environment) := by
  apply Looks.one
  intro error
  rw [Variable.fault_mode_iff, readMode]
  cases environment.value? "APP_ENV" with
  | none => simp
  | some value =>
      have reads : RunMode.parse? value = none ↔ ¬ Variable.mode.Allows value := by
        simp only [RunMode.parse?, Variable.Allows, List.mem_cons, List.not_mem_nil]
        grind
      cases parsed : RunMode.parse? value with
      | none => simp [reads.mp parsed, parsed, eq_comm]
      | some mode =>
          have allows : Variable.mode.Allows value := by
            rw [← not_not (a := Variable.mode.Allows value), ← reads, parsed]
            exact Option.some_ne_none mode
          simp [allows, parsed]

theorem looks_readAddress : Looks environment [.address] (readAddress environment) := by
  apply Looks.one
  intro error
  rw [Variable.fault_address_iff, readAddress]
  cases environment.value? "APP_BIND_ADDR" with
  | none =>
      have default : SocketAddress.parse? "127.0.0.1:8080" = some (.ipv4 0x7F000001 8080) := by decide
      simp [default]
  | some value =>
      rw [Option.getD_some]
      cases parsed : SocketAddress.parse? value with
      | none => simp [Variable.Allows, parsed, eq_comm]
      | some address => simp [Variable.Allows, parsed]

/-! ### What the readers read -/

theorem readPath?_isSome_iff (text : String) :
    (∃ path, readPath? text = some path) ↔ Variable.path.Allows text := by
  unfold readPath?
  change _ ↔ ∃ rest, text.toList = '/' :: rest
  cases text.toList with
  | nil => simp
  | cons c rest => simp

theorem parse?_isSome_iff (text : String) :
    (∃ policy, AttributePolicy.parse? text = some policy) ↔ Variable.policy.Allows text := by
  simp only [AttributePolicy.parse?, Variable.Allows, List.mem_cons, List.not_mem_nil, or_false]
  split
  · simp [*]
  · split <;> simp [*]

theorem readPositive?_isSome_iff (text : String) :
    (∃ n, readPositive? text = some n) ↔ ∃ n, Numeral.Spells n text ∧ 0 < n ∧ n < 2 ^ 64 := by
  refine exists_congr fun n => ?_
  rw [readPositive?, Option.filter_eq_some_iff, Numeral.natural?_eq_some_iff, decide_eq_true_eq,
    Nat.pos_iff_ne_zero, and_assoc, and_comm (a := n < _)]
  rfl

theorem readPort?_isSome_iff (text : String) :
    (∃ n, Numeral.natural? 0x10000 text = some n) ↔ Variable.port.Allows text :=
  exists_congr fun _ => Numeral.natural?_eq_some_iff

theorem readSwitch?_isSome_iff (text : String) :
    (∃ on, readSwitch? text = some on) ↔
      Text.asciiLower text ∈ ["1", "true", "yes", "on", "0", "false", "no", "off"] := by
  have words : ["1", "true", "yes", "on", "0", "false", "no", "off"] =
    ["1", "true", "yes", "on"] ++ ["0", "false", "no", "off"] := rfl
  rw [words, List.mem_append, ← List.contains_iff_mem, ← List.contains_iff_mem, readSwitch?]
  split
  · rename_i yes
    exact iff_of_true ⟨true, rfl⟩ (.inl yes)
  · rename_i notYes
    split
    · rename_i no
      exact iff_of_true ⟨false, rfl⟩ (.inr no)
    · rename_i notNo
      exact iff_of_false (by rintro ⟨on, ⟨⟩⟩) (not_or.mpr ⟨notYes, notNo⟩)

/-! ### The order of the variables -/

theorem looks_readWebhook :
    Looks environment [.validator, .secret, .path, .policy] (readWebhook environment) := by
  refine .bind (looks_required (v := .validator) (by decide) (by decide) fun _ => trivial) fun _ _ => ?_
  refine .bind (looks_required (v := .secret) (by decide) (by decide) fun _ => trivial) fun _ _ => ?_
  refine .bind (looks_meaning (v := .path) (by decide) (by decide) readPath?_isSome_iff) fun _ _ => ?_
  refine .bind (looks_meaning (v := .policy) (by decide) (by decide) parse?_isSome_iff) fun _ _ => ?_
  exact .ok _

theorem looks_readLimits : Looks environment [.capacity, .inFlight] (readLimits environment) := by
  refine .bind (looks_meaning (v := .capacity) (by decide) (by decide) readPositive?_isSome_iff)
    fun _ _ => ?_
  refine .bind (looks_meaning (v := .inFlight) (by decide) (by decide) readPositive?_isSome_iff)
    fun _ _ => ?_
  exact .ok _

theorem looks_readNasOn (host : String) : Looks environment ofNas (readNasOn environment host) := by
  refine .bind (looks_meaning (v := .port) (by decide) (by decide) readPort?_isSome_iff) fun _ _ => ?_
  refine .bind (looks_meaning (v := .useHttps) (by decide) (by decide) readSwitch?_isSome_iff)
    fun _ _ => ?_
  refine .bind (looks_meaning (v := .verifySsl) (by decide) (by decide) readSwitch?_isSome_iff)
    fun _ _ => ?_
  refine .bind (looks_required (v := .username) (by decide) (by decide) fun _ => trivial) fun _ _ => ?_
  refine .bind (looks_required (v := .password) (by decide) (by decide) fun _ => trivial) fun _ _ => ?_
  exact .ok _

theorem looks_readNas :
    Looks environment (if environment.setting? "NAS_HOST" = none then [] else ofNas)
      (readNas environment) := by
  unfold readNas
  cases environment.setting? "NAS_HOST" with
  | none => exact .ok _
  | some host => exact (looks_readNasOn host).map some

/-- Loading looks at the variables in their order. -/
theorem looks_load (environment : Environment) :
    Looks environment (consulted environment) (load environment) := by
  have steps : consulted environment =
      [.mode] ++ ([.address] ++ ([.validator, .secret, .path, .policy] ++ ([.capacity, .inFlight] ++
        ((if environment.setting? "NAS_HOST" = none then [] else ofNas) ++ [])))) := by
    rw [List.append_nil]
    rfl
  rw [steps]
  refine .bind looks_readMode fun _ _ => ?_
  refine .bind looks_readAddress fun _ _ => ?_
  refine .bind looks_readWebhook fun _ _ => ?_
  refine .bind looks_readLimits fun _ _ => ?_
  exact .bind looks_readNas fun _ _ => .ok _

end PresenceGateway.Config
