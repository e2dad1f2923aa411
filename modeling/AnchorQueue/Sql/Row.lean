import AnchorQueue.Error.Store
import AnchorQueue.Job.Basic

/-!
# Rows

A row of the table as the database returns it: every column may be null. The columns are checked in
order; then the status text has to name a status. Numbers are signed in the database, and a job has
them unsigned.
-/

namespace AnchorQueue.Sql

open AnchorQueue.Time (Instant)

structure Row where
  requestId : Option String
  logHash : Option String
  sourceOrg : Option String
  receivedAt : Option Instant
  status : Option String
  storedAt : Option Instant
  startedAt : Option Instant
  finishedAt : Option Instant
  txHash : Option String
  blockHeight : Option Int64
  chainHash : Option String
  errorMessage : Option String
  retries : Option Int32
  deriving DecidableEq

/-- A row with all columns that must not be null. -/
structure FullRow where
  requestId : String
  logHash : String
  sourceOrg : String
  receivedAt : Instant
  status : String
  storedAt : Instant
  startedAt : Option Instant
  finishedAt : Option Instant
  txHash : Option String
  blockHeight : Option Int64
  chainHash : Option String
  errorMessage : Option String
  retries : Int32
  deriving DecidableEq

namespace Row

def notNull {α : Type} (column : Column) : Option α → Except DatabaseError α
  | some a => .ok a
  | none => .error (.nullColumn column)

def full (r : Row) : Except DatabaseError FullRow := do
  let requestId ← notNull (.named "request_id") r.requestId
  let logHash ← notNull (.named "log_hash") r.logHash
  let sourceOrg ← notNull (.named "source_org_id") r.sourceOrg
  let receivedAt ← notNull (.named "received_timestamp") r.receivedAt
  let status ← notNull (.named "status") r.status
  let storedAt ← notNull (.named "received_at_db") r.storedAt
  let retries ← notNull (.named "retry_count") r.retries
  return {
    requestId, logHash, sourceOrg, receivedAt, status, storedAt, retries
    startedAt := r.startedAt
    finishedAt := r.finishedAt
    txHash := r.txHash
    blockHeight := r.blockHeight
    chainHash := r.chainHash
    errorMessage := r.errorMessage }

/-- The two columns of a locked row, which go by their places. -/
def locked (r : Row) : Except DatabaseError (String × Int32) := do
  let requestId ← notNull (.numbered 0) r.requestId
  let retries ← notNull (.numbered 1) r.retries
  return (requestId, retries)

end Row

namespace FullRow

def toJob (r : FullRow) : Except StoreError Job := do
  let status ← Status.parse r.status
  return {
    status
    requestId := r.requestId
    logHash := r.logHash
    sourceOrg := r.sourceOrg
    receivedAt := r.receivedAt
    storedAt := r.storedAt
    startedAt := r.startedAt
    finishedAt := r.finishedAt
    txHash := r.txHash
    blockHeight := r.blockHeight.map Int64.toUInt64
    chainHash := r.chainHash
    errorMessage := r.errorMessage
    retries := r.retries.toUInt32 }

end FullRow

/-- The retries of a locked row; a negative number counts as none. -/
def lockedRetries (n : Int32) : UInt32 :=
  if n < 0 then 0 else n.toUInt32

end AnchorQueue.Sql
