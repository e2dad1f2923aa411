import AnchorQueue.Ledger.Payload
import AnchorQueue.Query.Status

/-!
# Audits

An audit reads what the ledger keeps under a log hash. Every organization may audit every log.
-/

namespace AnchorQueue

/-- A log as found on the ledger. -/
structure LedgerRecord where
  source : String
  logHash : String
  content : String
  orgId : String
  timestamp : String
  deriving DecidableEq, Repr

namespace LedgerRecord

def ofPayload (logHash : String) (p : Ledger.Payload) : LedgerRecord where
  source := "blockchain"
  logHash := logHash
  content := p.content
  orgId := p.orgId
  timestamp := p.timestamp

end LedgerRecord

namespace Audit

def ofRaw (logHash raw : String) : Answer LedgerRecord :=
  match Ledger.Payload.decode raw with
  | .ok p => ⟨.ok (.ofPayload logHash p), []⟩
  | .error f => ⟨.error (.decode f), [.event (.payloadUndecodable logHash f)]⟩

def ofReply (logHash : String) : Except String (Option String) → Answer LedgerRecord
  | .error reason =>
    ⟨.error (.ledger reason), [.event (.ledgerFailed logHash (QueryError.ledgerMessage reason))]⟩
  | .ok none => ⟨.error .notFound, []⟩
  | .ok (some raw) => if raw = "" then ⟨.error .notFound, []⟩ else ofRaw logHash raw

end Audit

end AnchorQueue
