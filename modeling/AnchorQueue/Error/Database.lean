import AnchorQueue.Text.Decimal
import AnchorQueue.Text.Quoted

/-!
# Errors of the database connection
-/

namespace AnchorQueue

/-- A column of a row, by its name or by its place. -/
inductive Column
  | named (name : String)
  | numbered (index : Nat)
  deriving DecidableEq, Repr

def Column.describe : Column → String
  | named name => "\"" ++ name ++ "\""
  | numbered index => Text.decimal index

inductive DatabaseError
  | poolTimedOut
  | poolClosed
  | rowNotFound
  | workerCrashed
  | columnNotFound (name : String)
  | protocol (text : String)
  | configuration (text : String)
  | sslMode (raw : String)
  | io (text : String)
  | server (text : String)
  | nullColumn (column : Column)
  deriving DecidableEq, Repr

namespace DatabaseError

def unexpectedNull : String :=
  "unexpected null; try decoding as an `Option`"

def unknownSslMode (raw : String) : String :=
  "unknown value " ++ Text.quoted raw ++ " for `ssl_mode`"

/-- An unknown TLS mode is a fault of an option, and that one a fault of the configuration. -/
def message : DatabaseError → String
  | poolTimedOut => "pool timed out while waiting for an open connection"
  | poolClosed => "attempted to acquire a connection on a closed pool"
  | rowNotFound => "no rows returned by a query that expected to return at least one row"
  | workerCrashed => "attempted to communicate with a crashed background worker"
  | columnNotFound name => "no column found for name: " ++ name
  | protocol text => "encountered unexpected or invalid data: " ++ text
  | configuration text => "error with configuration: " ++ text
  | sslMode raw => "error with configuration: error with configuration: " ++ unknownSslMode raw
  | io text => "error communicating with database: " ++ text
  | server text => "error returned from database: " ++ text
  | nullColumn column =>
    "error occurred while decoding column " ++ column.describe ++ ": " ++ unexpectedNull

/-- What lies behind the error, outermost first. -/
def causes : DatabaseError → List String
  | configuration text => [text]
  | sslMode raw => ["error with configuration: " ++ unknownSslMode raw, unknownSslMode raw]
  | io text => [text]
  | server text => [text]
  | nullColumn _ => [unexpectedNull]
  | _ => []

end DatabaseError

end AnchorQueue
