import AnchorQueue.Job.Basic

/-!
# What an organization sees of its job
-/

namespace AnchorQueue

open AnchorQueue.Time (Instant)

structure StatusView where
  requestId : String
  logHash : String
  sourceOrg : String
  status : String
  receivedAt : Instant
  startedAt : Option Instant
  finishedAt : Option Instant
  txHash : Option String
  blockHeight : Option UInt64
  chainHash : Option String
  errorMessage : Option String
  deriving DecidableEq, Repr

def Job.view (j : Job) : StatusView where
  requestId := j.requestId
  logHash := j.logHash
  sourceOrg := j.sourceOrg
  status := j.status.name
  receivedAt := j.receivedAt
  startedAt := j.startedAt
  finishedAt := j.finishedAt
  txHash := j.txHash
  blockHeight := j.blockHeight
  chainHash := j.chainHash
  errorMessage := j.errorMessage

end AnchorQueue
