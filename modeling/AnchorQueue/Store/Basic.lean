import AnchorQueue.Error.Store
import AnchorQueue.Job.Action
import AnchorQueue.Job.ClaimPlan
import AnchorQueue.Store.Roster

/-!
# The job store

The store holds one job per request id. Jobs enter once and then change only by actions; an action
that does not apply leaves the store as it is.
-/

namespace AnchorQueue

open AnchorQueue.Time (Instant)

structure Store where
  jobs : Roster Job

/-- What a job is looked up by. -/
inductive Key
  | requestId (id : String)
  | logHash (hash : String)
  deriving DecidableEq, Repr

namespace Key

def column : Key → String
  | requestId _ => "request_id"
  | logHash _ => "log_hash"

def value : Key → String
  | requestId id => id
  | logHash hash => hash

def describe (k : Key) : String :=
  k.column ++ "=" ++ k.value

end Key

namespace Store

def empty : Store :=
  ⟨.empty⟩

def get? (s : Store) (id : String) : Option Job :=
  s.jobs.get? id

def put (s : Store) (id : String) (j : Job) : Store :=
  ⟨s.jobs.put id j⟩

def size (s : Store) : Nat :=
  s.jobs.size

def isEmpty (s : Store) : Bool :=
  s.size = 0

theorem get?_empty (id : String) : empty.get? id = none := rfl

theorem get?_put (s : Store) (id k : String) (j : Job) :
    (s.put id j).get? k = if k = id then some j else s.get? k :=
  Roster.get?_put s.jobs id k j

/-- Stores the submissions whose id is new, and counts them. -/
def enroll (now : Instant) : Store → List Submission → Store × Nat
  | s, [] => (s, 0)
  | s, x :: xs =>
    match s.get? x.requestId with
    | some _ => enroll now s xs
    | none =>
      let (s', n) := enroll now (s.put x.requestId (x.toJob now)) xs
      (s', n + 1)

/-- Applies the actions that apply, in order, and lists the jobs that changed. -/
def advance : Store → List (String × Action) → Store × List (String × Job)
  | s, [] => (s, [])
  | s, (id, a) :: rest =>
    match (s.get? id).bind fun j => j.act? a with
    | none => advance s rest
    | some j =>
      let (s', moved) := advance (s.put id j) rest
      (s', (id, j) :: moved)

/-- The waiting jobs among the candidates, each with its retries. -/
def waiting (s : Store) (ids : List String) : List (String × UInt32) :=
  ids.filterMap fun id =>
    match s.get? id with
    | some j => if j.status = .received then some (id, j.retries) else none
    | none => none

/-- By the time of storing, and by id among jobs stored at one time. -/
def precedes (a b : Job) : Bool :=
  a.storedAt < b.storedAt || (a.storedAt = b.storedAt && a.requestId < b.requestId)

def earliest : List Job → Option Job
  | [] => none
  | j :: js =>
    match earliest js with
    | some k => if precedes k j then some k else some j
    | none => some j

/-- The job with the id, or the earliest with the hash. -/
def find? (s : Store) : Key → Option Job
  | .requestId id => s.get? id
  | .logHash hash => earliest (s.jobs.values.filter fun j => j.logHash = hash)

def find (s : Store) (k : Key) : Except StoreError Job :=
  match s.find? k with
  | some j => .ok j
  | none => .error (.notFound k.describe)

end Store

end AnchorQueue
