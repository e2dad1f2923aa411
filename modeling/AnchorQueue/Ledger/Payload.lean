import AnchorQueue.Ledger.FormEncoding

/-!
# Ledger payloads

What the ledger keeps under a log hash: a form with the organization, the time and the log itself.
The first value of a key counts, and all three must be there and not empty.
-/

namespace AnchorQueue.Ledger

structure Payload where
  orgId : String
  timestamp : String
  content : String
  deriving DecidableEq, Repr

/-- A payload without meaning: nothing, or nothing but an empty text, under a key. -/
structure MissingField where
  key : String
  deriving DecidableEq, Repr

def MissingField.message (e : MissingField) : String :=
  "incomplete on-chain data: missing " ++ e.key

namespace Payload

def field (pairs : List (String × String)) (key : String) : Except MissingField String :=
  match pairs.find? fun p => p.1 = key with
  | some p => if p.2 = "" then .error ⟨key⟩ else .ok p.2
  | none => .error ⟨key⟩

/-- The fields are looked for in this order. -/
def ofPairs (pairs : List (String × String)) : Except MissingField Payload := do
  let orgId ← field pairs "org_id"
  let timestamp ← field pairs "ts"
  let content ← field pairs "content"
  return { orgId, timestamp, content }

def decode (raw : String) : Except MissingField Payload :=
  ofPairs (Form.pairs raw)

end Payload

/-- The answer of the ledger for a hash: a payload, nothing, or a failure. -/
abbrev Lookup := String → Except String (Option String)

end AnchorQueue.Ledger
