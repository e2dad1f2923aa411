import AnchorQueue.Config.Environment
import AnchorQueue.Error.Store
import AnchorQueue.Text.Blank
import AnchorQueue.Text.Quoted

/-!
# Configuration

The configuration is read from the environment, variable by variable in a fixed order; the first
bad one is the error. The database address is a secret and never shown.
-/

namespace AnchorQueue

open AnchorQueue.Time (Duration)

/-- A text that is kept from view. -/
structure Secret where
  expose : String
  deriving DecidableEq

def Secret.describe (_ : Secret) : String :=
  "SecretBox<str>([REDACTED])"

structure StoreOptions where
  maxConnections : UInt32
  minConnections : UInt32
  batchTimeout : Duration
  retryTimeout : Duration
  deriving DecidableEq

def StoreOptions.default : StoreOptions :=
  ⟨50, 10, .ofSeconds 15, .ofSeconds 10⟩

structure TelemetrySettings where
  endpoint : Option String
  serviceName : String
  defaultLevel : String
  deriving DecidableEq

structure Config where
  databaseUrl : Secret
  maxConnections : UInt32
  minConnections : UInt32
  maxRetries : UInt32
  batchTimeout : Duration
  retryTimeout : Duration
  endpoint : Option String
  logLevel : String
  deriving DecidableEq

inductive ConfigFault
  | missing (v : Variable)
  | invalid (v : Variable) (raw : String) (reason : Text.NumeralFault)
  deriving DecidableEq, Repr

namespace ConfigFault

def message : ConfigFault → String
  | missing v => "required environment variable " ++ v.name ++ " is not set"
  | invalid v raw reason =>
    "invalid value for " ++ v.name ++ " (" ++ Text.quoted raw ++ "): " ++ reason.message

def toError (f : ConfigFault) : StoreError :=
  .config f.message

end ConfigFault

namespace Config

def serviceName : String :=
  "logaudit"

def requiredText (env : Environment) (v : Variable) : Except ConfigFault String :=
  match (env v).text? with
  | some raw => .ok raw
  | none => .error (.missing v)

/-- A number below the bound, with blanks around it; the default where there is none. -/
def number (env : Environment) (v : Variable) (bound default : Nat) : Except ConfigFault Nat :=
  match (env v).text? with
  | none => .ok default
  | some raw =>
    match Text.readNatural bound (Text.trimChars raw.toList) with
    | .ok n => .ok n
    | .error reason => .error (.invalid v raw reason)

def load (env : Environment) : Except ConfigFault Config := do
  let databaseUrl ← requiredText env .databaseUrl
  let maxConnections ← number env .maxConnections UInt32.size 50
  let minConnections ← number env .minConnections UInt32.size 10
  let maxRetries ← number env .maxRetries UInt32.size 3
  let batchTimeout ← number env .batchTimeout UInt64.size 15
  let retryTimeout ← number env .retryTimeout UInt64.size 10
  return {
    databaseUrl := ⟨databaseUrl⟩
    maxConnections := maxConnections.toUInt32
    minConnections := minConnections.toUInt32
    maxRetries := maxRetries.toUInt32
    batchTimeout := .ofSeconds batchTimeout
    retryTimeout := .ofSeconds retryTimeout
    endpoint := (env .endpoint).text?
    logLevel := (env .logLevel).text?.getD "info" }

def storeOptions (c : Config) : StoreOptions :=
  ⟨c.maxConnections, c.minConnections, c.batchTimeout, c.retryTimeout⟩

def telemetry (c : Config) : TelemetrySettings :=
  ⟨c.endpoint, serviceName, c.logLevel⟩

def describeOption : Option String → String
  | some s => "Some(" ++ Text.quoted s ++ ")"
  | none => "None"

def describe (c : Config) : String :=
  "Config \x7b database_url: " ++ c.databaseUrl.describe ++
    ", db_max_connections: " ++ Text.decimal c.maxConnections.toNat ++
    ", db_min_connections: " ++ Text.decimal c.minConnections.toNat ++
    ", max_retries: " ++ Text.decimal c.maxRetries.toNat ++
    ", batch_timeout: " ++ c.batchTimeout.describe ++
    ", retry_timeout: " ++ c.retryTimeout.describe ++
    ", otel_endpoint: " ++ describeOption c.endpoint ++
    ", log_level: " ++ Text.quoted c.logLevel ++ " \x7d"

end Config

end AnchorQueue
