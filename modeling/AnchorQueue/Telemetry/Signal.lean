import AnchorQueue.Error.Store
import AnchorQueue.Ledger.Payload
import AnchorQueue.Store.Report

/-!
# Signals

What the queue tells its observers: counters that go up, timed batches, spans around batches, and
log events. A run is a list of signals in the order in which they were given.
-/

namespace AnchorQueue

inductive Counter
  | inserted
  | duplicate
  | moved (source target : Status)
  | mismatch (operation : Operation)
  deriving DecidableEq, Repr

namespace Counter

def metric : Counter → String
  | inserted => "logaudit.tasks.inserted"
  | duplicate => "logaudit.tasks.inserted"
  | moved _ _ => "logaudit.task.transitions"
  | mismatch _ => "logaudit.batch.mismatches"

def labels : Counter → List (String × String)
  | inserted => [("result", "inserted")]
  | duplicate => [("result", "duplicate")]
  | moved source target => [("from", source.name), ("to", target.name)]
  | mismatch operation => [("operation", operation.name)]

end Counter

/-- The histogram of batch durations. -/
def durationMetric : String :=
  "logaudit.batch.duration_ms"

inductive Level
  | debug
  | info
  | warn
  | error
  deriving DecidableEq, Repr

def Level.name : Level → String
  | debug => "DEBUG"
  | info => "INFO"
  | warn => "WARN"
  | error => "ERROR"

inductive FieldValue
  | text (value : String)
  | number (value : Nat)
  deriving DecidableEq, Repr

inductive Event
  | ceilingReached (count : Nat) (ceiling : UInt32)
  | batchPartial (operation : Operation) (report : BatchReport)
  | duplicatesSkipped (report : BatchReport)
  | accessDenied (caller owner requestId : String)
  | lookupFailed (key value : String) (error : StoreError)
  | ledgerFailed (logHash reason : String)
  | payloadUndecodable (logHash : String) (missing : Ledger.MissingField)
  deriving DecidableEq, Repr

namespace Event

def level : Event → Level
  | ceilingReached _ _ => .info
  | batchPartial _ _ => .warn
  | duplicatesSkipped _ => .debug
  | accessDenied _ _ _ => .warn
  | lookupFailed _ _ _ => .error
  | ledgerFailed _ _ => .error
  | payloadUndecodable _ _ => .error

def message : Event → String
  | ceilingReached _ _ => "tasks reached retry ceiling, marked FAILED"
  | batchPartial _ _ => "batch affected fewer rows than requested"
  | duplicatesSkipped _ => "skipped tasks whose request_id already exists"
  | accessDenied _ _ _ => "permission denied"
  | lookupFailed _ _ _ => "task lookup failed"
  | ledgerFailed _ _ => "ledger lookup failed"
  | payloadUndecodable _ _ => "undecodable on-chain payload"

def fields : Event → List (String × FieldValue)
  | ceilingReached count ceiling =>
    [("count", .number count), ("max_retries", .number ceiling.toNat)]
  | batchPartial operation report =>
    [("operation", .text operation.name), ("requested", .number report.requested),
      ("affected", .number report.affected)]
  | duplicatesSkipped report =>
    [("requested", .number report.requested), ("inserted", .number report.affected)]
  | accessDenied caller owner requestId =>
    [("caller_org", .text caller), ("owner_org", .text owner), ("request_id", .text requestId)]
  | lookupFailed key value error =>
    [("key", .text key), ("value", .text value), ("error", .text error.message)]
  | ledgerFailed logHash reason => [("log_hash", .text logHash), ("error", .text reason)]
  | payloadUndecodable logHash missing =>
    [("log_hash", .text logHash), ("error", .text missing.message)]

end Event

/-- The span around a batch; `affected` is set once the batch is done. -/
structure BatchSpan where
  operation : Operation
  size : Nat
  affected : Option Nat
  deriving DecidableEq, Repr

inductive Signal
  | count (counter : Counter) (amount : Nat)
  | timed (operation : Operation)
  | span (s : BatchSpan)
  | event (e : Event)
  deriving DecidableEq, Repr

namespace Signal

def events (signals : List Signal) : List Event :=
  signals.filterMap fun
    | event e => some e
    | _ => none

def spans (signals : List Signal) : List BatchSpan :=
  signals.filterMap fun
    | span s => some s
    | _ => none

def counts (signals : List Signal) : List (Counter × Nat) :=
  signals.filterMap fun
    | count c n => some (c, n)
    | _ => none

def timings (signals : List Signal) : List Operation :=
  signals.filterMap fun
    | timed o => some o
    | _ => none

/-- How far a counter went up. -/
def total (c : Counter) (signals : List Signal) : Nat :=
  ((counts signals).map fun s => if s.1 = c then s.2 else 0).foldr (· + ·) 0

/-- Every counter that was ever touched, with its total. -/
def totals (signals : List Signal) : List (Counter × Nat) :=
  ((counts signals).map Prod.fst).eraseDups.map fun c => (c, total c signals)

theorem events_append (xs ys : List Signal) : events (xs ++ ys) = events xs ++ events ys :=
  List.filterMap_append

theorem total_nil (c : Counter) : total c [] = 0 := rfl

theorem total_append (c : Counter) (xs ys : List Signal) :
    total c (xs ++ ys) = total c xs + total c ys := by
  have hCounts : counts (xs ++ ys) = counts xs ++ counts ys := List.filterMap_append
  rw [total, hCounts, total]
  induction counts xs with
  | nil => exact (Nat.zero_add _).symm
  | cons x xs ih =>
    rw [List.cons_append, List.map_cons, List.foldr_cons, ih, ← Nat.add_assoc]
    rfl

/-- Moves are counted only when there are some. -/
def ofMoves (source target : Status) (n : Nat) : List Signal :=
  if n = 0 then [] else [count (.moved source target) n]

theorem events_ofMoves (source target : Status) (n : Nat) :
    events (ofMoves source target n) = [] := by
  rw [ofMoves]
  split <;> rfl

/-- A partial report is counted and warned about. -/
def ofReport (operation : Operation) (report : BatchReport) : List Signal :=
  if report.isPartial then
    [event (.batchPartial operation report), count (.mismatch operation) 1]
  else []

end Signal

end AnchorQueue
