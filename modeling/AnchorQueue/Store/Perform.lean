import AnchorQueue.Store.Basic
import AnchorQueue.Store.Batch
import AnchorQueue.Telemetry.Signal

/-!
# Batches on the store

Each batch is one step: it is checked, the store changes, and the signals tell what happened. A
batch that fails its check changes nothing and gives no signal.
-/

namespace AnchorQueue

open AnchorQueue.Time (Instant)

/-- What a batch answers, what it leaves, and what it tells. -/
structure Effect (ρ : Type) where
  result : ρ
  store : Store
  signals : List Signal

def Effect.map {ρ σ : Type} (f : ρ → σ) (e : Effect ρ) : Effect σ :=
  ⟨f e.result, e.store, e.signals⟩

namespace Store

def insert (s : Store) (now : Instant) (requested : Nat) (fresh : List Submission) :
    Effect BatchResult :=
  let (s', n) := s.enroll now fresh
  { result := .report ⟨requested, n⟩
    store := s'
    signals := [.count .inserted n, .count .duplicate (requested - n)] }

def claim (s : Store) (now : Instant) (ids : List String) (ceiling : UInt32) :
    Effect BatchResult :=
  let plan := ClaimPlan.ofLocked ceiling (s.waiting ids)
  let failed := (s.advance (plan.exhausted.map fun id => (id, .exhaust ceiling now))).1
  let (s', claimed) := failed.advance (plan.claimable.map fun id => (id, .start now))
  { result := .claimed claimed
    store := s'
    signals :=
      (if plan.exhausted.isEmpty then []
        else [.event (.ceilingReached plan.exhausted.length ceiling)]) ++
      Signal.ofMoves .received .failed plan.exhausted.length ++
      Signal.ofMoves .received .processing claimed.length }

/-- Actions that all lead from processing to one status, with a report. -/
def report (s : Store) (operation : Operation) (target : Status)
    (actions : List (String × Action)) : Effect BatchResult :=
  let (s', moved) := s.advance actions
  let r : BatchReport := ⟨actions.length, moved.length⟩
  { result := .report r
    store := s'
    signals := Signal.ofMoves .processing target moved.length ++ Signal.ofReport operation r }

def complete (s : Store) (now : Instant) (anchorings : List Anchoring) : Effect BatchResult :=
  s.report .complete .completed (anchorings.map fun a => (a.requestId, .complete a now))

def fail (s : Store) (now : Instant) (failures : List Failure) : Effect BatchResult :=
  s.report .fail .failed (failures.map fun f => (f.requestId, .fail f.errorMessage now))

def retry (s : Store) (ids : List String) (lastError : String) : Effect BatchResult :=
  s.report .retry .received (ids.map fun id => (id, .requeue lastError))

/-- A batch that passed its check; `requested` is its size before repetitions were dropped. -/
def effect (s : Store) (now : Instant) (requested : Nat) : Batch → Effect BatchResult
  | .insert submissions => s.insert now requested submissions
  | .claim ids ceiling => s.claim now ids ceiling
  | .complete anchorings => s.complete now anchorings
  | .fail failures => s.fail now failures
  | .retry ids lastError => s.retry ids lastError

def perform (s : Store) (now : Instant) (b : Batch) : Effect (Except BatchFault BatchResult) :=
  if b.size = 0 then ⟨.ok b.emptyResult, s, []⟩
  else
    match b.fault? with
    | some f => ⟨.error f, s, []⟩
    | none => (s.effect now b.size b.normalize).map .ok

/-- The store after a batch. -/
def after (s : Store) (now : Instant) (b : Batch) : Store :=
  (s.perform now b).store

end Store

end AnchorQueue
