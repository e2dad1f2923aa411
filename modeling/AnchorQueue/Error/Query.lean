import AnchorQueue.Error.Store
import AnchorQueue.Ledger.Payload

/-!
# Errors of queries

What a caller is told when a query fails. Store errors keep their cause for the log, but the caller
only sees which kind of failure it was.
-/

namespace AnchorQueue

inductive QueryError
  | notFound
  | permissionDenied
  | invalidRequest (text : String)
  | ledgerUnavailable
  | ledger (reason : String)
  | decode (missing : Ledger.MissingField)
  | internal (cause : StoreError)
  deriving DecidableEq, Repr

namespace QueryError

def ofStore : StoreError → QueryError
  | .notFound _ => notFound
  | .validation text => invalidRequest text
  | e => internal e

def statusCode : QueryError → Nat
  | notFound => 404
  | permissionDenied => 403
  | invalidRequest _ => 400
  | ledgerUnavailable => 500
  | ledger _ => 500
  | decode _ => 500
  | internal _ => 500

def message : QueryError → String
  | notFound => "log not found"
  | permissionDenied => "permission denied"
  | invalidRequest text => "invalid request: " ++ text
  | ledgerUnavailable => "blockchain client not available"
  | ledger _ => "blockchain query failed"
  | decode _ => "failed to parse on-chain data"
  | internal _ => "failed to query database"

/-- The text that a caller may see. -/
def publicMessage : QueryError → String
  | notFound => message notFound
  | permissionDenied => message permissionDenied
  | ledger reason => message (ledger reason)
  | invalidRequest text => text
  | _ => "internal server error"

def ledgerMessage (reason : String) : String :=
  "ledger query failed: " ++ reason

/-- The text of the error behind this one. -/
def cause : QueryError → Option String
  | ledger reason => some (ledgerMessage reason)
  | decode missing => some missing.message
  | internal e => some e.message
  | _ => none

end QueryError

end AnchorQueue
