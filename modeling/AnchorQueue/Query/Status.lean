import AnchorQueue.Query.PathSegment
import AnchorQueue.Query.StatusView
import AnchorQueue.Store.Basic
import AnchorQueue.Telemetry.Signal

/-!
# Status queries

A query names a job by its request id or by its content. It is answered in two steps: first the key
to look under, then, from what was found there, the answer. Only the organization that submitted
the job gets to see it.
-/

namespace AnchorQueue

inductive StatusQuery
  | byRequestId (id : String)
  | byContent (content : String)
  deriving DecidableEq, Repr

structure Answer (α : Type) where
  result : Except QueryError α
  signals : List Signal

namespace StatusQuery

def key : StatusQuery → Except QueryError Key
  | byRequestId id => (PathSegment.check "request_id" id).map .requestId
  | byContent content =>
    if content = "" then .error (.invalidRequest "log_content is required")
    else .ok (.logHash (Digest.contentHash content))

/-- A lookup that failed is worth a log entry, unless there was just nothing. -/
def failureSignals (k : Key) : StoreError → List Signal
  | .notFound _ => []
  | e => [.event (.lookupFailed k.column k.value e)]

def authorize (caller : String) (j : Job) : Answer StatusView :=
  if j.sourceOrg = caller then ⟨.ok j.view, []⟩
  else ⟨.error .permissionDenied, [.event (.accessDenied caller j.sourceOrg j.requestId)]⟩

def answer (caller : String) (k : Key) : Except StoreError Job → Answer StatusView
  | .ok j => authorize caller j
  | .error e => ⟨.error (.ofStore e), failureSignals k e⟩

end StatusQuery

end AnchorQueue
