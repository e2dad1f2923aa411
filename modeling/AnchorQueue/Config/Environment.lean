/-!
# The environment

The variables that configure the queue. A variable that is set to something other than text counts
as unset.
-/

namespace AnchorQueue

inductive Variable
  | databaseUrl
  | maxConnections
  | minConnections
  | maxRetries
  | batchTimeout
  | retryTimeout
  | endpoint
  | logLevel
  deriving DecidableEq, Repr

namespace Variable

def all : List Variable :=
  [databaseUrl, maxConnections, minConnections, maxRetries, batchTimeout, retryTimeout, endpoint,
    logLevel]

def name : Variable → String
  | databaseUrl => "DATABASE_URL"
  | maxConnections => "DB_MAX_CONNECTIONS"
  | minConnections => "DB_MIN_CONNECTIONS"
  | maxRetries => "MAX_RETRIES"
  | batchTimeout => "BATCH_TIMEOUT_SECS"
  | retryTimeout => "RETRY_TIMEOUT_SECS"
  | endpoint => "OTEL_ENDPOINT"
  | logLevel => "LOG_LEVEL"

end Variable

inductive Setting
  | unset
  | undecodable
  | text (value : String)
  deriving DecidableEq, Repr

def Setting.text? : Setting → Option String
  | text value => some value
  | _ => none

abbrev Environment := Variable → Setting

end AnchorQueue
