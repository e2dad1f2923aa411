import AnchorQueue.Json.Record
import AnchorQueue.Query.Audit
import AnchorQueue.Query.StatusView

/-!
# The wire forms

The records of the queue with the names and the order of their slots.
-/

namespace AnchorQueue.Json

open Slot

def jobSlots : List Slot :=
  [required "request_id" .text, required "log_hash" .text, required "source_org_id" .text,
    required "received_timestamp" .time, required "received_at_db" .time,
    required "status" .status, nullable "processing_started_at" .time,
    nullable "processing_finished_at" .time, nullable "tx_hash" .text,
    nullable "block_height" .word64, nullable "log_hash_on_chain" .text,
    nullable "error_message" .text, required "retry_count" .word32]

def job : Codec Job :=
  Record.codec jobSlots
    (fun j => (j.requestId, j.logHash, j.sourceOrg, j.receivedAt, j.storedAt, j.status, j.startedAt,
      j.finishedAt, j.txHash, j.blockHeight, j.chainHash, j.errorMessage, j.retries, ()))
    (fun (requestId, logHash, sourceOrg, receivedAt, storedAt, status, startedAt, finishedAt,
        txHash, blockHeight, chainHash, errorMessage, retries, ()) =>
      { requestId, logHash, sourceOrg, receivedAt, storedAt, status, startedAt, finishedAt,
        txHash, blockHeight, chainHash, errorMessage, retries })

def submissionSlots : List Slot :=
  [required "request_id" .text, required "log_hash" .text, required "source_org_id" .text,
    required "received_timestamp" .time]

def submission : Codec Submission :=
  Record.codec submissionSlots
    (fun s => (s.requestId, s.logHash, s.sourceOrg, s.receivedAt, ()))
    (fun (requestId, logHash, sourceOrg, receivedAt, ()) =>
      { requestId, logHash, sourceOrg, receivedAt })

def anchoringSlots : List Slot :=
  [required "request_id" .text, required "tx_hash" .text, required "log_hash_on_chain" .text,
    required "block_height" .word64]

def anchoring : Codec Anchoring :=
  Record.codec anchoringSlots
    (fun a => (a.requestId, a.txHash, a.chainHash, a.blockHeight, ()))
    (fun (requestId, txHash, chainHash, blockHeight, ()) =>
      { requestId, txHash, chainHash, blockHeight })

def failureSlots : List Slot :=
  [required "request_id" .text, required "error_message" .text]

def failure : Codec Failure :=
  Record.codec failureSlots (fun f => (f.requestId, f.errorMessage, ()))
    (fun (requestId, errorMessage, ()) => { requestId, errorMessage })

def viewSlots : List Slot :=
  [required "request_id" .text, required "log_hash" .text, required "source_org_id" .text,
    required "status" .text, required "received_timestamp" .time,
    omittable "processing_started_at" .time, omittable "processing_finished_at" .time,
    omittable "tx_hash" .text, omittable "block_height" .word64,
    omittable "log_hash_on_chain" .text, omittable "error_message" .text]

def view : Codec StatusView :=
  Record.codec viewSlots
    (fun v => (v.requestId, v.logHash, v.sourceOrg, v.status, v.receivedAt, v.startedAt,
      v.finishedAt, v.txHash, v.blockHeight, v.chainHash, v.errorMessage, ()))
    (fun (requestId, logHash, sourceOrg, status, receivedAt, startedAt, finishedAt, txHash,
        blockHeight, chainHash, errorMessage, ()) =>
      { requestId, logHash, sourceOrg, status, receivedAt, startedAt, finishedAt, txHash,
        blockHeight, chainHash, errorMessage })

def ledgerRecordSlots : List Slot :=
  [required "source" .text, required "log_hash" .text, required "log_content" .text,
    required "sender_org_id" .text, required "timestamp" .text]

def ledgerRecord : Codec LedgerRecord :=
  Record.codec ledgerRecordSlots
    (fun r => (r.source, r.logHash, r.content, r.orgId, r.timestamp, ()))
    (fun (source, logHash, content, orgId, timestamp, ()) =>
      { source, logHash, content, orgId, timestamp })

def payloadSlots : List Slot :=
  [required "org_id" .text, required "timestamp" .text, required "content" .text]

def payload : Codec Ledger.Payload :=
  Record.codec payloadSlots (fun p => (p.orgId, p.timestamp, p.content, ()))
    (fun (orgId, timestamp, content, ()) => { orgId, timestamp, content })

end AnchorQueue.Json
