import AnchorQueue.Config.Basic
import AnchorQueue.Query.Service
import AnchorQueue.Sql.Dialogue
import AnchorQueue.Store.Batch

/-!
# The store in the database

Every batch is one transaction with a time limit on both sides: the server aborts its statements
after the limit, and the client gives up on the whole batch. Counters and spans follow the commit.
-/

namespace AnchorQueue.Sql

open AnchorQueue.Time (Duration Instant)

/-! ## Batches as dialogues -/

def stageOf (o : Operation) (part : String) : Stage :=
  .named (o.name ++ "." ++ part)

def opening {α : Type} (o : Operation) (limit : Duration) (body : Dialogue α) : Dialogue α :=
  .ask (stageOf o "begin") .beginTransaction fun _ =>
    .ask (stageOf o "begin") (.limitTime limit) fun _ => body

def committing {α : Type} (o : Operation) (rest : Dialogue α) : Dialogue α :=
  .ask (stageOf o "commit") .commit fun _ => rest

/-- A transaction of one statement, which gives the number of rows it changed. -/
def changing (o : Operation) (limit : Duration) (part : String) (s : Statement) : Dialogue Nat :=
  opening o limit (.ask (stageOf o part) s fun r => committing o (.done r.affected))

/-- One entry per id; of several rows with an id the last one counts. -/
def keyed (jobs : List Job) : List (String × Job) :=
  jobs.foldl (fun entries j => RosterEntries.put j.requestId j entries) []

def claimExhausted (plan : ClaimPlan) (ceiling : UInt32) (now : Instant)
    (rest : Dialogue (List (String × Job))) : Dialogue (List (String × Job)) :=
  if plan.exhausted.isEmpty then rest
  else
    .ask (stageOf .claim "exhaust") (.exhaust (exhaustedMessage ceiling) now plan.exhausted)
      fun _ => .tell [.event (.ceilingReached plan.exhausted.length ceiling)] rest

def claimMarked (plan : ClaimPlan) (now : Instant)
    (rest : List FullRow → Dialogue (List (String × Job))) : Dialogue (List (String × Job)) :=
  if plan.claimable.isEmpty then rest []
  else
    .ask (stageOf .claim "mark_processing") (.markProcessing now plan.claimable) fun r =>
      .decoding (stageOf .claim "mark_processing") (r.rows.mapM Row.full) rest

def claimCommitted (plan : ClaimPlan) (rows : List FullRow) : Dialogue (List (String × Job)) :=
  committing .claim <|
    .tell (Signal.ofMoves .received .failed plan.exhausted.length ++
        Signal.ofMoves .received .processing rows.length) <|
      match rows.mapM FullRow.toJob with
      | .ok jobs => .done (keyed jobs)
      | .error e => .refuse e

def claimPlanned (plan : ClaimPlan) (ceiling : UInt32) (now : Instant) :
    Dialogue (List (String × Job)) :=
  if plan.isEmpty then committing .claim (.done [])
  else claimExhausted plan ceiling now (claimMarked plan now (claimCommitted plan))

def claiming (limit : Duration) (now : Instant) (ids : List String) (ceiling : UInt32) :
    Dialogue (List (String × Job)) :=
  opening .claim limit <|
    .ask (stageOf .claim "lock") (.lock ids) fun r =>
      .decoding (stageOf .claim "lock") (r.rows.mapM Row.locked) fun locked =>
        claimPlanned
          (.ofLocked ceiling (locked.map fun l => (l.1, lockedRetries l.2))) ceiling now

/-! ## Running batches -/

/-- `result` is missing when an answer never came and nothing limits the wait. -/
structure Exchange (α : Type) where
  result : Option (Except StoreError α)
  sent : List Statement
  signals : List Signal

namespace Exchange

/-- A refusal before anything was sent. -/
def unsent {α : Type} (result : Except StoreError α) : Exchange α :=
  ⟨some result, [], []⟩

end Exchange

def limitOf (options : StoreOptions) : Operation → Duration
  | .retry => options.retryTimeout
  | _ => options.batchTimeout

/-- Runs a batch under its limit, inside its span. -/
def bounded {α : Type} (o : Operation) (limit : Duration) (size : Nat) (affected : α → Nat)
    (finish : α → BatchResult × List Signal) (d : Dialogue α) (replies : List Reply) :
    Exchange BatchResult :=
  let t := d.run false replies
  match t.ending with
  | .finished a =>
    let (result, signals) := finish a
    { result := some (.ok result)
      sent := t.sent
      signals := t.signals ++ [.timed o, .span ⟨o, size, some (affected a)⟩] ++ signals }
  | .refused e =>
    { result := some (.error e), sent := t.sent, signals := t.signals ++ [.span ⟨o, size, none⟩] }
  | .unanswered =>
    { result := some (.error (.timeout o.name limit))
      sent := t.sent
      signals := t.signals ++ [.span ⟨o, size, none⟩] }

def finishInsert (requested inserted : Nat) : BatchResult × List Signal :=
  let r : BatchReport := ⟨requested, inserted⟩
  (.report r,
    [.count .inserted inserted, .count .duplicate (requested - inserted)] ++
      if r.isPartial then [.event (.duplicatesSkipped r)] else [])

def finishReport (o : Operation) (target : Status) (requested affected : Nat) :
    BatchResult × List Signal :=
  let r : BatchReport := ⟨requested, affected⟩
  (.report r, Signal.ofMoves .processing target affected ++ Signal.ofReport o r)

/-- A batch that passed its check; `requested` is its size before repetitions were dropped. -/
def exchange (options : StoreOptions) (now : Instant) (requested : Nat) (b : Batch)
    (replies : List Reply) : Exchange BatchResult :=
  let o := b.operation
  let limit := limitOf options o
  let size := b.size
  match b with
  | .insert submissions =>
    bounded o limit size id (finishInsert requested)
      (changing o limit "execute" (.insert submissions)) replies
  | .claim ids ceiling =>
    bounded o limit size List.length (fun jobs => (.claimed jobs, []))
      (claiming limit now ids ceiling) replies
  | .complete anchorings =>
    bounded o limit size id (finishReport o .completed size)
      (changing o limit "update" (.complete anchorings now)) replies
  | .fail failures =>
    bounded o limit size id (finishReport o .failed size)
      (changing o limit "update" (.fail failures now)) replies
  | .retry ids lastError =>
    bounded o limit size id (finishReport o .received size)
      (changing o limit "update" (.requeue lastError ids)) replies

def perform (options : StoreOptions) (now : Instant) (b : Batch) (replies : List Reply) :
    Exchange BatchResult :=
  if b.size = 0 then .unsent (.ok b.emptyResult)
  else
    match b.fault? with
    | some f => .unsent (.error f.toError)
    | none => exchange options now b.size b.normalize replies

/-! ## Everything else -/

/-- Runs a dialogue that nothing limits. -/
def unbounded {α : Type} (d : Dialogue α) (replies : List Reply) : Exchange α :=
  let t := d.run false replies
  match t.ending with
  | .finished a => ⟨some (.ok a), t.sent, t.signals⟩
  | .refused e => ⟨some (.error e), t.sent, t.signals⟩
  | .unanswered => ⟨none, t.sent, t.signals⟩

def lookupStage : Key → Stage
  | .requestId _ => .named "get_by_id"
  | .logHash _ => .named "get_by_hash"

def finding (k : Key) : Dialogue Job :=
  .ask (lookupStage k) (.find k) fun r =>
    match r.rows with
    | [] => .refuse (.notFound k.describe)
    | row :: _ =>
      .decoding (lookupStage k) row.full fun full =>
        match full.toJob with
        | .ok j => .done j
        | .error e => .refuse e

def find (k : Key) (replies : List Reply) : Exchange Job :=
  unbounded (finding k) replies

/-- The replies as a store, which may leave a lookup without an answer. -/
def service (replies : List Reply) : QueryService Option where
  find k := (find k replies).result
  ledger := none

/-- The answer to a status query from what the database replies, and what was sent for it. -/
def status (q : StatusQuery) (caller : String) (replies : List Reply) :
    Option (Answer StatusView) × List Statement :=
  ((service replies).status q caller,
    match q.key with
    | .error _ => []
    | .ok k => (find k replies).sent)

def schemaVersion : Nat :=
  20250101000000

/-- Creates the table and its indexes. -/
def migrating : Dialogue Unit :=
  .ask (.migration .transaction) .beginTransaction fun _ =>
    .ask (.migration (.version schemaVersion)) .createSchema fun _ =>
      .ask (.migration .transaction) .commit fun _ => .done ()

def migrate (replies : List Reply) : Exchange Unit :=
  unbounded migrating replies

/-- Sees whether the database answers. -/
def ping (replies : List Reply) : Exchange Unit :=
  unbounded (.ask .plain .ping fun _ => .done ()) replies

end AnchorQueue.Sql
