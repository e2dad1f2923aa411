import AnchorQueue.Error.Store
import AnchorQueue.Job.Basic
import AnchorQueue.Store.Report
import AnchorQueue.Text.Blank

/-!
# Batches

The five kinds of batch, and the check that every batch passes before anything is done for it. The
check goes through the items in order and ends at the first fault. Repeated ids are an error where
two items could disagree, and are dropped where they could not.
-/

namespace AnchorQueue

inductive Batch
  | insert (submissions : List Submission)
  | claim (ids : List String) (ceiling : UInt32)
  | complete (anchorings : List Anchoring)
  | fail (failures : List Failure)
  | retry (ids : List String) (lastError : String)
  deriving DecidableEq, Repr

inductive BatchFault
  | blankId
  | blankHash (requestId : String)
  | heightOutOfRange (requestId : String) (height : UInt64)
  | repeatedCompletion (requestId : String)
  | repeatedFailure (requestId : String)
  deriving DecidableEq, Repr

namespace BatchFault

def message : BatchFault → String
  | blankId => "empty request_id in batch"
  | blankHash requestId => "empty log_hash for request_id " ++ requestId
  | heightOutOfRange requestId height =>
    "block_height " ++ Text.decimal height.toNat ++ " out of range for request_id " ++ requestId
  | repeatedCompletion requestId =>
    "request_id " ++ requestId ++ " appears twice in completion batch"
  | repeatedFailure requestId => "request_id " ++ requestId ++ " appears twice in failure batch"

def toError (f : BatchFault) : StoreError :=
  .validation f.message

end BatchFault

namespace Batch

variable {α : Type}

def size : Batch → Nat
  | insert submissions => submissions.length
  | claim ids _ => ids.length
  | complete anchorings => anchorings.length
  | fail failures => failures.length
  | retry ids _ => ids.length

def operation : Batch → Operation
  | insert _ => .insert
  | claim _ _ => .claim
  | complete _ => .complete
  | fail _ => .fail
  | retry _ _ => .retry

/-- The first fault in order; `fault` also sees the ids that came before. -/
def firstFault (key : α → String) (fault : List String → α → Option BatchFault) :
    List String → List α → Option BatchFault
  | _, [] => none
  | seen, x :: xs =>
    match fault seen x with
    | some f => some f
    | none => firstFault key fault (key x :: seen) xs

/-- The first item of every key. -/
def distinctFrom (key : α → String) : List String → List α → List α
  | _, [] => []
  | seen, x :: xs =>
    if key x ∈ seen then distinctFrom key seen xs
    else x :: distinctFrom key (key x :: seen) xs

def distinct (key : α → String) (xs : List α) : List α :=
  distinctFrom key [] xs

def idFault (_ : List String) (id : String) : Option BatchFault :=
  if Text.isBlank id then some .blankId else none

def submissionFault (_ : List String) (s : Submission) : Option BatchFault :=
  if Text.isBlank s.requestId then some .blankId
  else if Text.isBlank s.logHash then some (.blankHash s.requestId)
  else none

/-- The greatest height that the database can hold. -/
def greatestHeight : Nat :=
  Nat.pow 2 63 - 1

def anchoringFault (seen : List String) (a : Anchoring) : Option BatchFault :=
  if Text.isBlank a.requestId then some .blankId
  else if greatestHeight < a.blockHeight.toNat then
    some (.heightOutOfRange a.requestId a.blockHeight)
  else if a.requestId ∈ seen then some (.repeatedCompletion a.requestId)
  else none

def failureFault (seen : List String) (f : Failure) : Option BatchFault :=
  if Text.isBlank f.requestId then some .blankId
  else if f.requestId ∈ seen then some (.repeatedFailure f.requestId)
  else none

def fault? : Batch → Option BatchFault
  | insert submissions => firstFault Submission.requestId submissionFault [] submissions
  | claim ids _ => firstFault id idFault [] ids
  | complete anchorings => firstFault Anchoring.requestId anchoringFault [] anchorings
  | fail failures => firstFault Failure.requestId failureFault [] failures
  | retry ids _ => firstFault id idFault [] ids

/-- The batch without the repetitions that are dropped. -/
def normalize : Batch → Batch
  | insert submissions => insert (distinct Submission.requestId submissions)
  | claim ids ceiling => claim (distinct id ids) ceiling
  | complete anchorings => complete anchorings
  | fail failures => fail failures
  | retry ids lastError => retry (distinct id ids) lastError

def requestIds : Batch → List String
  | insert submissions => submissions.map Submission.requestId
  | claim ids _ => ids
  | complete anchorings => anchorings.map Anchoring.requestId
  | fail failures => failures.map Failure.requestId
  | retry ids _ => ids

end Batch

/-- What a batch answers: a report, or for a claim the jobs handed out under their ids. -/
inductive BatchResult
  | report (r : BatchReport)
  | claimed (jobs : List (String × Job))
  deriving DecidableEq, Repr

/-- The answer to a batch of no items. -/
def Batch.emptyResult : Batch → BatchResult
  | .claim _ _ => .claimed []
  | _ => .report .empty

end AnchorQueue
