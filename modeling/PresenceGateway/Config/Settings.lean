import PresenceGateway.Config.Environment
import PresenceGateway.Config.SocketAddress
import PresenceGateway.Dispatch.Queue
import PresenceGateway.Gateway.Webhook
import PresenceGateway.Nas.Entry
/-!
The configuration: what the variables of the environment say.

The variables are looked at in a fixed order, and the first that is missing or cannot be understood
decides what is reported. A setting of blanks only counts as not set. The variables about the NAS
are looked at only when its host is set.
-/
namespace PresenceGateway

/-! ### Run modes -/

inductive RunMode where
  | development
  | production
  | test
deriving DecidableEq

namespace RunMode

def text : RunMode → String
  | development => "development"
  | production => "production"
  | test => "test"

def parse? (text : String) : Option RunMode :=
  if text = "development" ∨ text = "dev" then some development
  else if text = "production" ∨ text = "prod" then some production
  else if text = "test" then some test
  else none

end RunMode

/-! ### Configurations -/

structure NasSettings where
  entryId : String
  data : Nas.EntryData
deriving DecidableEq

def NasSettings.entry (settings : NasSettings) : Nas.Entry :=
  { entryId := settings.entryId
    uniqueId := settings.data.host ++ ":" ++ toString settings.data.port
    data := settings.data
    devices := [] }

structure Config where
  address : SocketAddress
  mode : RunMode
  databaseUrl : String
  webhook : Webhook.Settings
  limits : Dispatch.Limits
  nas : Option NasSettings

inductive ConfigError where
  | unknownMode (value : String)
  | address
  | missing (name : String)
  | invalid (name value : String)
deriving DecidableEq

namespace ConfigError

def message : ConfigError → String
  | unknownMode value =>
    "APP_ENV must be one of 'development', 'production', or 'test' (got " ++ value ++ ")"
  | address => "invalid APP_BIND_ADDR value: invalid socket address syntax"
  | missing name => name ++ " must be set"
  | invalid name value => "invalid " ++ name ++ " value: " ++ value

def kind : ConfigError → String
  | unknownMode _ => "InvalidEnvironment"
  | address => "BindAddress"
  | missing _ => "Missing"
  | invalid _ _ => "InvalidValue"

def debugText (error : ConfigError) : String :=
  error.kind ++ match error with
    | unknownMode value => "(" ++ Text.quote value ++ ")"
    | address => "(AddrParseError(Socket))"
    | missing name => "(" ++ Text.quote name ++ ")"
    | invalid name value =>
      " \x7b var: " ++ Text.quote name ++ ", value: " ++ Text.quote value ++ " \x7d"

end ConfigError

namespace Config

def names : List String :=
  ["APP_ENV", "APP_BIND_ADDR", "DATABASE_URL", "MERAKI_VALIDATOR", "MERAKI_SECRET",
    "MERAKI_WEBHOOK_PATH", "MERAKI_EMPTY_ATTRIBUTES", "PRESENCE_QUEUE_CAPACITY",
    "PRESENCE_MAX_IN_FLIGHT", "NAS_HOST", "NAS_PORT", "NAS_USE_HTTPS", "NAS_USERNAME",
    "NAS_PASSWORD", "NAS_VERIFY_SSL", "NAS_MAC", "NAS_ENTRY_ID"]

def hiddenSecret : String := "SecretString(***)"

/-! ### Single variables -/

def required (environment : Environment) (name : String) : Except ConfigError String :=
  match environment.setting? name with
  | some value => .ok value
  | none => .error (.missing name)

def meaning {α : Type} (environment : Environment) (name : String) (parse? : String → Option α) :
    Except ConfigError (Option α) :=
  match environment.setting? name with
  | none => .ok none
  | some value =>
    match parse? value with
    | some a => .ok (some a)
    | none => .error (.invalid name value)

def readPositive? (text : String) : Option Nat :=
  (Numeral.natural? 0x10000000000000000 text).filter fun value => value ≠ 0

def readSwitch? (text : String) : Option Bool :=
  let word := Text.asciiLower text
  if ["1", "true", "yes", "on"].contains word then some true
  else if ["0", "false", "no", "off"].contains word then some false
  else none

def readPath? (text : String) : Option String :=
  if text.toList.head? = some '/' then some text else none

def readItems (text : String) : List String :=
  ((Text.split ',' text).map Text.trim).filter fun item => item ≠ ""

/-! ### The parts of a configuration -/

def readMode (environment : Environment) : Except ConfigError RunMode :=
  match environment.value? "APP_ENV" with
  | none => .ok .development
  | some value =>
    match RunMode.parse? value with
    | some mode => .ok mode
    | none => .error (.unknownMode value)

def readAddress (environment : Environment) : Except ConfigError SocketAddress :=
  match SocketAddress.parse? ((environment.value? "APP_BIND_ADDR").getD "127.0.0.1:8080") with
  | some address => .ok address
  | none => .error .address

def readWebhook (environment : Environment) : Except ConfigError Webhook.Settings := do
  let validator ← required environment "MERAKI_VALIDATOR"
  let secret ← required environment "MERAKI_SECRET"
  let path ← meaning environment "MERAKI_WEBHOOK_PATH" readPath?
  let policy ← meaning environment "MERAKI_EMPTY_ATTRIBUTES" AttributePolicy.parse?
  return {
    validator, secret
    path := path.getD "/api/meraki"
    policy := policy.getD .default }

def readLimits (environment : Environment) : Except ConfigError Dispatch.Limits := do
  let capacity ← meaning environment "PRESENCE_QUEUE_CAPACITY" readPositive?
  let inFlight ← meaning environment "PRESENCE_MAX_IN_FLIGHT" readPositive?
  return {
    capacity := capacity.getD Dispatch.Limits.default.capacity
    inFlight := inFlight.getD Dispatch.Limits.default.inFlight }

def readNasOn (environment : Environment) (host : String) : Except ConfigError NasSettings := do
  let number ← meaning environment "NAS_PORT" (Numeral.natural? 0x10000)
  let useHttps ← meaning environment "NAS_USE_HTTPS" readSwitch?
  let verifySsl ← meaning environment "NAS_VERIFY_SSL" readSwitch?
  let username ← required environment "NAS_USERNAME"
  let password ← required environment "NAS_PASSWORD"
  return {
    entryId := (environment.setting? "NAS_ENTRY_ID").getD "nas"
    data := {
      host, username, password, verifySsl
      port := number.getD 5001
      useHttps := useHttps.getD true
      macs := readItems ((environment.setting? "NAS_MAC").getD "") } }

def readNas (environment : Environment) : Except ConfigError (Option NasSettings) :=
  match environment.setting? "NAS_HOST" with
  | none => .ok none
  | some host => (readNasOn environment host).map some

def load (environment : Environment) : Except ConfigError Config := do
  let mode ← readMode environment
  let address ← readAddress environment
  let webhook ← readWebhook environment
  let limits ← readLimits environment
  let nas ← readNas environment
  return {
    address, mode, webhook, limits, nas
    databaseUrl :=
      (environment.setting? "DATABASE_URL").getD "sqlite://data/presence.db?mode=rwc" }

end Config

end PresenceGateway
