import AnchorQueue.Query.Audit

/-!
# The query service

A query service looks into a store and, if there is one, into a ledger. What looking there involves
is left open: a service may look directly, may be left without an answer, or may write down what it
is asked. A status query asks the store only, and an audit only the ledger.
-/

namespace AnchorQueue

structure QueryService (m : Type → Type) where
  find : Key → m (Except StoreError Job)
  ledger : Option (String → m (Except String (Option String)))

namespace QueryService

variable {m : Type → Type} [Monad m]

def status (service : QueryService m) (q : StatusQuery) (caller : String) :
    m (Answer StatusView) := do
  match q.key with
  | .error e => return ⟨.error e, []⟩
  | .ok k => return StatusQuery.answer caller k (← service.find k)

def audit (service : QueryService m) (text : String) : m (Answer LedgerRecord) := do
  match PathSegment.check "log_hash" text with
  | .error e => return ⟨.error e, []⟩
  | .ok hash =>
    match service.ledger with
    | none => return ⟨.error .ledgerUnavailable, []⟩
    | some look => return Audit.ofReply hash (← look hash)

end QueryService

inductive Inquiry
  | store (k : Key)
  | ledger (hash : String)
  deriving DecidableEq, Repr

namespace Store

/-- Looks directly into the store and the ledger. -/
def service (s : Store) (ledger : Option Ledger.Lookup) : QueryService Id where
  find := s.find
  ledger := ledger

/-- Looks there as well, and writes down what it is asked. -/
def recorder (s : Store) (ledger : Option Ledger.Lookup) :
    QueryService (StateM (List Inquiry)) where
  find k := modifyGet fun asked => (s.find k, asked ++ [.store k])
  ledger := ledger.map fun lookup hash =>
    modifyGet fun asked => (lookup hash, asked ++ [.ledger hash])

/-- The answer from the jobs in a store. -/
def status (s : Store) (q : StatusQuery) (caller : String) : Answer StatusView :=
  (s.service none).status q caller

/-- The answer to an audit, with what was asked for it. -/
def recordedAudit (s : Store) (ledger : Option Ledger.Lookup) (text : String) :
    Answer LedgerRecord × List Inquiry :=
  ((s.recorder ledger).audit text).run []

end Store

/-- The answer from a ledger, which is the same over every store. -/
def Audit.byHash (ledger : Option Ledger.Lookup) (text : String) : Answer LedgerRecord :=
  (Store.empty.service ledger).audit text

end AnchorQueue
