import AnchorQueue.Digest.Sha256
import AnchorQueue.Job.Status
import AnchorQueue.Time.Instant

/-!
# Jobs

A job asks for one log to be anchored on the ledger. Producers submit it; the store keeps it with
its progress.
-/

namespace AnchorQueue

open AnchorQueue.Time (Instant)

/-- What a producer hands in. -/
structure Submission where
  requestId : String
  logHash : String
  sourceOrg : String
  receivedAt : Instant
  deriving DecidableEq, Repr

/-- Proof that a log is on the ledger. -/
structure Anchoring where
  requestId : String
  txHash : String
  chainHash : String
  blockHeight : UInt64
  deriving DecidableEq, Repr

/-- The report that a job cannot succeed. -/
structure Failure where
  requestId : String
  errorMessage : String
  deriving DecidableEq, Repr

structure Job where
  requestId : String
  logHash : String
  sourceOrg : String
  receivedAt : Instant
  storedAt : Instant
  status : Status
  startedAt : Option Instant
  finishedAt : Option Instant
  txHash : Option String
  blockHeight : Option UInt64
  chainHash : Option String
  errorMessage : Option String
  retries : UInt32
  deriving DecidableEq, Repr

def Submission.ofContent (requestId sourceOrg content : String) (receivedAt : Instant) :
    Submission where
  requestId := requestId
  logHash := Digest.contentHash content
  sourceOrg := sourceOrg
  receivedAt := receivedAt

/-- The job as it is when it enters the store. -/
def Submission.toJob (s : Submission) (now : Instant) : Job where
  requestId := s.requestId
  logHash := s.logHash
  sourceOrg := s.sourceOrg
  receivedAt := s.receivedAt
  storedAt := now
  status := .received
  startedAt := none
  finishedAt := none
  txHash := none
  blockHeight := none
  chainHash := none
  errorMessage := none
  retries := 0

end AnchorQueue
