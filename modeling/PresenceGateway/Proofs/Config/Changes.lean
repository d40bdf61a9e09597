import PresenceGateway.Proofs.Config.Variables
import PresenceGateway.Proofs.Lookup
import PresenceGateway.Proofs.Text.Items
/-!
Changes of the environment that make no difference to a configuration. A variable that holds blanks only
counts as not set, except for the two that are taken as they are; without the host of a NAS nothing else
about it is looked at; and a list of addresses can be written as the items that were found in it.
-/
namespace PresenceGateway

/-! ### Changes of an environment -/

namespace Environment

variable {environment first second : Environment}

def set (environment : Environment) (name value : String) : Environment :=
  { values := (name, value) :: environment.values }

def unset (environment : Environment) (name : String) : Environment :=
  { values := environment.values.filter fun entry => entry.1 ≠ name }

theorem value?_set (environment : Environment) (name value other : String) :
    (environment.set name value).value? other =
      if other = name then some value else environment.value? other :=
  lookup_cons_ite other name value environment.values

theorem value?_unset (environment : Environment) (name other : String) :
    (environment.unset name).value? other = if other = name then none else environment.value? other :=
  lookup_filter_ne other name environment.values

theorem setting?_congr {name : String} (same : first.value? name = second.value? name) :
    first.setting? name = second.setting? name :=
  congrArg (Option.filter _) same

/-- A setting of blanks only counts as not set. -/
theorem setting?_set_blank (environment : Environment) {blank : String}
    (blanks : Text.isBlankText blank = true) (name other : String) :
    (environment.set name blank).setting? other = (environment.unset name).setting? other := by
  unfold setting?
  rw [value?_set, value?_unset]
  by_cases same : other = name
  · rw [if_pos same, if_pos same, Option.filter_some, blanks]
    rfl
  · rw [if_neg same, if_neg same]

theorem setting?_set_of_ne {name other : String} (different : other ≠ name) (value : String) :
    (environment.set name value).setting? other = environment.setting? other :=
  setting?_congr (by rw [value?_set, if_neg different])

end Environment

namespace Config

variable {environment first second : Environment}

/-! ### Lists of addresses -/

/-- The items between commas that are not blank, without the blanks around them. -/
def listedItems (text : String) : List String :=
  (Text.solidItems text).map Text.trim

theorem readItems_eq (text : String) : readItems text = listedItems text := by
  unfold readItems listedItems Text.solidItems
  rw [List.filter_map]
  congr 1
  apply List.filter_congr
  intro item _
  rw [Function.comp_apply, Bool.eq_iff_iff, decide_eq_true_eq, Bool.not_eq_true', ne_eq,
    Text.trim_eq_empty_iff, Bool.not_eq_true]

/-- The items that are found in a list can be written as a list, with commas between them. -/
theorem readItems_intercalate (text : String) :
    readItems (",".intercalate (listedItems text)) = listedItems text := by
  have trimmed : ∀ item ∈ listedItems text, Text.trim item = item := by
    intro item inside
    obtain ⟨raw, _, rfl⟩ := List.mem_map.mp inside
    exact Text.trim_trim raw
  have solid : ∀ item ∈ listedItems text, item ≠ "" := by
    intro item inside
    obtain ⟨raw, found, rfl⟩ := List.mem_map.mp inside
    rw [ne_eq, Text.trim_eq_empty_iff, (Text.mem_solidItems_iff.mp found).2]
    exact Bool.false_ne_true
  have apart : ∀ item ∈ listedItems text, ',' ∉ item.toList := by
    intro item inside
    obtain ⟨raw, found, rfl⟩ := List.mem_map.mp inside
    rw [Text.trim_toList]
    exact fun comma => Text.comma_notMem_of_mem_split (Text.mem_solidItems_iff.mp found).1
      (Text.mem_of_mem_trimChars comma)
  by_cases nothing : listedItems text = []
  · rw [nothing]
    rfl
  · have items := Text.split_intercalate apart nothing
    unfold readItems
    rw [items, List.map_congr_left trimmed, List.map_id', List.filter_eq_self.mpr]
    exact fun item inside => decide_eq_true (solid item inside)

/-- A list is read from a setting as from the variable: of blanks only there are no items. -/
theorem readItems_setting (environment : Environment) (name : String) :
    readItems ((environment.setting? name).getD "") =
      listedItems ((environment.value? name).getD "") := by
  rw [readItems_eq, Environment.setting?]
  cases environment.value? name with
  | none => rfl
  | some value =>
      rw [Option.filter_some, Option.getD_some]
      cases blank : Text.isBlankText value with
      | false => rfl
      | true =>
          rw [listedItems, listedItems, Text.solidItems_of_blank blank]
          rfl

/-! ### What a configuration depends on -/

def generalNames : List String :=
  ["DATABASE_URL", "MERAKI_VALIDATOR", "MERAKI_SECRET", "MERAKI_WEBHOOK_PATH",
    "MERAKI_EMPTY_ATTRIBUTES", "PRESENCE_QUEUE_CAPACITY", "PRESENCE_MAX_IN_FLIGHT", "NAS_HOST"]

def nasNames : List String :=
  ["NAS_PORT", "NAS_USE_HTTPS", "NAS_VERIFY_SSL", "NAS_USERNAME", "NAS_PASSWORD", "NAS_MAC",
    "NAS_ENTRY_ID"]

/-- Two environments in which the same is read of a NAS, if there is one. -/
structure AlikeOfNas (first second : Environment) : Prop where
  settings : ∀ name ∈ nasNames, name ≠ "NAS_MAC" → first.setting? name = second.setting? name
  macs : readItems ((first.setting? "NAS_MAC").getD "") =
    readItems ((second.setting? "NAS_MAC").getD "")

/-- Two environments in which the same is read. -/
structure Alike (first second : Environment) : Prop where
  mode : first.value? "APP_ENV" = second.value? "APP_ENV"
  address : first.value? "APP_BIND_ADDR" = second.value? "APP_BIND_ADDR"
  settings : ∀ name ∈ generalNames, first.setting? name = second.setting? name
  nas : second.setting? "NAS_HOST" ≠ none → AlikeOfNas first second

theorem AlikeOfNas.readNasOn_eq (alike : AlikeOfNas first second) (host : String) :
    readNasOn first host = readNasOn second host := by
  have same (name : String) (listed : name ∈ nasNames) (other : name ≠ "NAS_MAC") :=
    alike.settings name listed other
  simp only [readNasOn, meaning, required]
  rw [same "NAS_PORT" (by decide) (by decide), same "NAS_USE_HTTPS" (by decide) (by decide),
    same "NAS_VERIFY_SSL" (by decide) (by decide), same "NAS_USERNAME" (by decide) (by decide),
    same "NAS_PASSWORD" (by decide) (by decide), same "NAS_ENTRY_ID" (by decide) (by decide),
    alike.macs]

theorem Alike.load_eq (alike : Alike first second) : load first = load second := by
  have same (name : String) (listed : name ∈ generalNames) := alike.settings name listed
  have mode : readMode first = readMode second := by
    rw [readMode, readMode, alike.mode]
  have address : readAddress first = readAddress second := by
    rw [readAddress, readAddress, alike.address]
  have webhook : readWebhook first = readWebhook second := by
    simp only [readWebhook, meaning, required]
    rw [same "MERAKI_VALIDATOR" (by decide), same "MERAKI_SECRET" (by decide),
      same "MERAKI_WEBHOOK_PATH" (by decide), same "MERAKI_EMPTY_ATTRIBUTES" (by decide)]
  have limits : readLimits first = readLimits second := by
    simp only [readLimits, meaning]
    rw [same "PRESENCE_QUEUE_CAPACITY" (by decide), same "PRESENCE_MAX_IN_FLIGHT" (by decide)]
  have nas : readNas first = readNas second := by
    rw [readNas, readNas, same "NAS_HOST" (by decide)]
    cases present : second.setting? "NAS_HOST" with
    | none => rfl
    | some host =>
        have alike := alike.nas (ne_of_eq_of_ne present (Option.some_ne_none host))
        exact congrArg (Except.map some) (alike.readNasOn_eq host)
  rw [load, load, mode, address, webhook, limits, nas, same "DATABASE_URL" (by decide)]

/-- Environments with the same mode, address and settings are alike. -/
theorem alike_of_settings (mode : first.value? "APP_ENV" = second.value? "APP_ENV")
    (address : first.value? "APP_BIND_ADDR" = second.value? "APP_BIND_ADDR")
    (settings : ∀ name, first.setting? name = second.setting? name) : Alike first second where
  mode := mode
  address := address
  settings name _ := settings name
  nas _ := ⟨fun name _ _ => settings name, by rw [settings]⟩

theorem load_set_blank (environment : Environment) {name blank : String} (notMode : name ≠ "APP_ENV")
    (notAddress : name ≠ "APP_BIND_ADDR") (blanks : Text.isBlankText blank = true) :
    load (environment.set name blank) = load (environment.unset name) := by
  have elsewhere {other : String} (different : name ≠ other) :
      (environment.set name blank).value? other = (environment.unset name).value? other := by
    rw [Environment.value?_set, Environment.value?_unset, if_neg different.symm, if_neg different.symm]
  exact (alike_of_settings (elsewhere notMode) (elsewhere notAddress)
    fun other => environment.setting?_set_blank blanks name other).load_eq

/-- Without a host nothing else about the NAS is looked at. -/
theorem load_eq_of_no_host (without : environment.setting? "NAS_HOST" = none) {other : Environment}
    (same : ∀ name, name ∉ nasNames → other.value? name = environment.value? name) :
    load other = load environment := by
  have alike : Alike other environment := {
    mode := same _ (by decide)
    address := same _ (by decide)
    settings := by
      have apart : ∀ name ∈ generalNames, name ∉ nasNames := by decide
      exact fun name listed => Environment.setting?_congr (same name (apart name listed))
    nas := fun host => absurd without host }
  exact alike.load_eq

theorem macs_of_readNasOn {host : String} {nas : NasSettings}
    (read : readNasOn environment host = .ok nas) :
    nas.data.macs = readItems ((environment.setting? "NAS_MAC").getD "") := by
  obtain ⟨number, _, read⟩ := bind_eq_ok_iff.mp read
  obtain ⟨useHttps, _, read⟩ := bind_eq_ok_iff.mp read
  obtain ⟨verifySsl, _, read⟩ := bind_eq_ok_iff.mp read
  obtain ⟨username, _, read⟩ := bind_eq_ok_iff.mp read
  obtain ⟨password, _, read⟩ := bind_eq_ok_iff.mp read
  cases read
  rfl

theorem macs_of_load {config : Config} {nas : NasSettings} (loaded : load environment = .ok config)
    (present : config.nas = some nas) :
    nas.data.macs = listedItems ((environment.value? "NAS_MAC").getD "") := by
  obtain ⟨_, _, _, _, nasRead, _⟩ := load_eq_ok_iff.mp loaded
  rw [present] at nasRead
  unfold readNas at nasRead
  split at nasRead
  · cases nasRead
  · rename_i host _
    cases read : readNasOn environment host with
    | error cause =>
        rw [read] at nasRead
        cases nasRead
    | ok found =>
        rw [read] at nasRead
        cases nasRead
        rw [macs_of_readNasOn read, readItems_setting]

/-- The addresses can be given as the list of those that were found. -/
theorem load_set_macs (environment : Environment) :
    load (environment.set "NAS_MAC"
        (",".intercalate (listedItems ((environment.value? "NAS_MAC").getD "")))) =
      load environment := by
  have elsewhere {name : String} (different : name ≠ "NAS_MAC") (value : String) :
      (environment.set "NAS_MAC" value).value? name = environment.value? name := by
    rw [Environment.value?_set, if_neg different]
  have alike : Alike (environment.set "NAS_MAC"
      (",".intercalate (listedItems ((environment.value? "NAS_MAC").getD "")))) environment := {
    mode := elsewhere (by decide) _
    address := elsewhere (by decide) _
    settings := by
      have apart : ∀ name ∈ generalNames, name ≠ "NAS_MAC" := by decide
      exact fun name listed => Environment.setting?_set_of_ne (apart name listed) _
    nas := fun _ => {
      settings := fun name _ different => Environment.setting?_set_of_ne different _
      macs := by
        rw [readItems_setting, readItems_setting, Environment.value?_set, if_pos rfl,
          Option.getD_some, ← readItems_eq, readItems_intercalate] } }
  exact alike.load_eq

/-- Loading reports the first fault and takes blanks for nothing. There is a configuration exactly when no
variable that is looked at is at fault, and otherwise the error is that of the first that is. A variable of
blanks, other than the mode and the address, is as good as one that is not set. Without the host of a NAS
no other variable about it has a part in the result. With one, its addresses are the items between commas
that are not blank, trimmed and in order, and they are found again when they are joined by commas. -/
theorem load_reports_first_fault (environment : Environment) :
    ((∃ config, load environment = .ok config) ↔
        ∀ v ∈ consulted environment, v.Sound environment) ∧
      (∀ error, load environment = .error error ↔
        FirstFault environment (consulted environment) error) ∧
      (∀ name blank, name ≠ "APP_ENV" → name ≠ "APP_BIND_ADDR" → Text.isBlankText blank = true →
        load (environment.set name blank) = load (environment.unset name)) ∧
      (environment.setting? "NAS_HOST" = none → ∀ other : Environment,
        (∀ name, name ∉ nasNames → other.value? name = environment.value? name) →
          load other = load environment) ∧
      ∀ config nas, load environment = .ok config → config.nas = some nas →
        nas.data.macs = listedItems ((environment.value? "NAS_MAC").getD "") ∧
          load (environment.set "NAS_MAC" (",".intercalate nas.data.macs)) = .ok config := by
  have looks := looks_load environment
  refine ⟨looks.exists_ok_iff, looks, ?_, ?_, ?_⟩
  · intro name blank notMode notAddress blanks
    exact load_set_blank environment notMode notAddress blanks
  · intro without other same
    exact load_eq_of_no_host without same
  · intro config nas loaded present
    have macs := macs_of_load loaded present
    refine ⟨macs, ?_⟩
    rw [macs, load_set_macs, loaded]

def environmentWith (host macs : String) : Environment :=
  { values := [("APP_ENV", "prod"), ("MERAKI_VALIDATOR", "v"), ("MERAKI_SECRET", "s"),
      ("NAS_HOST", host), ("NAS_USERNAME", "u"), ("NAS_PASSWORD", "p"), ("NAS_MAC", macs)] }

/-- Of a careless list the two addresses are found, a port of blanks is the default port, and without a
host a port that is no number does not matter. -/
theorem load_reports_first_fault_of_careless_list :
    (∃ config nas, load (environmentWith "nas.local" " a ,, b\t,") = .ok config ∧
      config.nas = some nas ∧ nas.data.macs = ["a", "b"] ∧
      load ((environmentWith "nas.local" " a ,, b\t,").set "NAS_MAC" "a,b") = .ok config) ∧
      load ((environmentWith "nas.local" "").set "NAS_PORT" " \n") =
        load ((environmentWith "nas.local" "").unset "NAS_PORT") ∧
      load ((environmentWith " " "").set "NAS_PORT" "many") = load (environmentWith " " "") := by
  obtain ⟨_, _, _, _, listed⟩ :=
    load_reports_first_fault (environmentWith "nas.local" " a ,, b\t,")
  obtain ⟨_, _, blanks, _⟩ := load_reports_first_fault (environmentWith "nas.local" "")
  obtain ⟨_, _, _, hostless, _⟩ := load_reports_first_fault (environmentWith " " "")
  refine ⟨?_, blanks "NAS_PORT" " \n" (by decide) (by decide) (by decide), ?_⟩
  · obtain ⟨config, nas, loaded, present⟩ : ∃ config nas,
        load (environmentWith "nas.local" " a ,, b\t,") = .ok config ∧ config.nas = some nas :=
      ⟨_, _, rfl, rfl⟩
    obtain ⟨macs, again⟩ := listed config nas loaded present
    have items : nas.data.macs = ["a", "b"] := macs
    rw [items] at again
    exact ⟨config, nas, loaded, present, items, again⟩
  · apply hostless (by decide)
    intro name other
    rw [Environment.value?_set, if_neg]
    rintro rfl
    exact other (by decide)

end Config

end PresenceGateway
