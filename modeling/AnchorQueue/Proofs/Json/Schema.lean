import AnchorQueue.Json.Schema
import AnchorQueue.Proofs.Json.Object

/-!
# The wire forms are lawful

Every record of the queue is read back from its wire form. A job has all of its keys on the wire,
with null under those that are unset; a view leaves these out. Records without unset values are
objects that always have the same keys.
-/

namespace AnchorQueue.Json

open AnchorQueue.Time (Instant)
open Slot (Lawful)
open Codec (solid_text solid_time solid_word64)

/-! ## Lawfulness -/

theorem job_lawful : job.Lawful := by
  refine Record.lawful (by decide) ?_ fun _ => rfl
  simp only [jobSlots, List.forall_mem_cons]
  exact ⟨.required _ .text, .required _ .text, .required _ .text, .required _ .time,
    .required _ .time, .required _ .status, .nullable _ .time solid_time,
    .nullable _ .time solid_time, .nullable _ .text solid_text, .nullable _ .word64 solid_word64,
    .nullable _ .text solid_text, .nullable _ .text solid_text, .required _ .word32, nofun⟩

theorem submission_lawful : submission.Lawful := by
  refine Record.lawful (by decide) ?_ fun _ => rfl
  simp only [submissionSlots, List.forall_mem_cons]
  exact ⟨.required _ .text, .required _ .text, .required _ .text, .required _ .time, nofun⟩

theorem anchoring_lawful : anchoring.Lawful := by
  refine Record.lawful (by decide) ?_ fun _ => rfl
  simp only [anchoringSlots, List.forall_mem_cons]
  exact ⟨.required _ .text, .required _ .text, .required _ .text, .required _ .word64, nofun⟩

theorem failure_lawful : failure.Lawful := by
  refine Record.lawful (by decide) ?_ fun _ => rfl
  simp only [failureSlots, List.forall_mem_cons]
  exact ⟨.required _ .text, .required _ .text, nofun⟩

theorem view_lawful : view.Lawful := by
  refine Record.lawful (by decide) ?_ fun _ => rfl
  simp only [viewSlots, List.forall_mem_cons]
  exact ⟨.required _ .text, .required _ .text, .required _ .text, .required _ .text,
    .required _ .time, .omittable _ .time solid_time, .omittable _ .time solid_time,
    .omittable _ .text solid_text, .omittable _ .word64 solid_word64,
    .omittable _ .text solid_text, .omittable _ .text solid_text, nofun⟩

theorem ledgerRecord_lawful : ledgerRecord.Lawful := by
  refine Record.lawful (by decide) ?_ fun _ => rfl
  simp only [ledgerRecordSlots, List.forall_mem_cons]
  exact ⟨.required _ .text, .required _ .text, .required _ .text, .required _ .text,
    .required _ .text, nofun⟩

theorem payload_lawful : payload.Lawful := by
  refine Record.lawful (by decide) ?_ fun _ => rfl
  simp only [payloadSlots, List.forall_mem_cons]
  exact ⟨.required _ .text, .required _ .text, .required _ .text, nofun⟩

/-! ## Unset values on the wire -/

def orNull {α : Type} (f : α → Lexeme) (a : Option α) : Lexeme :=
  a.elim .null f

def entryIfSet {α : Type} (name : String) (f : α → Lexeme) (a : Option α) : List (List Lexeme) :=
  a.toList.map fun a => entry name (f a)

def instant (t : Instant) : Lexeme :=
  .text (String.ofList (Time.Rfc3339.write t))

/-- All keys, with null for unset values. -/
def jobForm (j : Job) : List Lexeme :=
  object [entry "request_id" (.text j.requestId), entry "log_hash" (.text j.logHash),
    entry "source_org_id" (.text j.sourceOrg), entry "received_timestamp" (instant j.receivedAt),
    entry "received_at_db" (instant j.storedAt), entry "status" (.text j.status.name),
    entry "processing_started_at" (orNull instant j.startedAt),
    entry "processing_finished_at" (orNull instant j.finishedAt),
    entry "tx_hash" (orNull .text j.txHash),
    entry "block_height" (orNull (fun n => .number n.toNat) j.blockHeight),
    entry "log_hash_on_chain" (orNull .text j.chainHash),
    entry "error_message" (orNull .text j.errorMessage),
    entry "retry_count" (.number j.retries.toNat)]

/-- Only the keys of set values after the first five. -/
def viewForm (v : StatusView) : List Lexeme :=
  object ([entry "request_id" (.text v.requestId), entry "log_hash" (.text v.logHash),
      entry "source_org_id" (.text v.sourceOrg), entry "status" (.text v.status),
      entry "received_timestamp" (instant v.receivedAt)] ++
    entryIfSet "processing_started_at" instant v.startedAt ++
    entryIfSet "processing_finished_at" instant v.finishedAt ++
    entryIfSet "tx_hash" .text v.txHash ++
    entryIfSet "block_height" (fun n => .number n.toNat) v.blockHeight ++
    entryIfSet "log_hash_on_chain" .text v.chainHash ++
    entryIfSet "error_message" .text v.errorMessage)

theorem write_job (j : Job) : job.write j = jobForm j := by
  obtain ⟨_, _, _, _, _, _, startedAt, finishedAt, txHash, blockHeight, chainHash, error, _⟩ := j
  cases startedAt <;> cases finishedAt <;> cases txHash <;> cases blockHeight <;>
    cases chainHash <;> cases error <;> rfl

theorem write_view (v : StatusView) : view.write v = viewForm v := by
  obtain ⟨_, _, _, _, _, startedAt, finishedAt, txHash, blockHeight, chainHash, error⟩ := v
  cases startedAt <;> cases finishedAt <;> cases txHash <;> cases blockHeight <;>
    cases chainHash <;> cases error <;> rfl

/-! ## Records without unset values -/

def submissionForm (x : Submission) : Object :=
  ⟨[("request_id", .text x.requestId), ("log_hash", .text x.logHash),
    ("source_org_id", .text x.sourceOrg),
    ("received_timestamp", .text (String.ofList (Time.Rfc3339.write x.receivedAt)))]⟩

def anchoringForm (a : Anchoring) : Object :=
  ⟨[("request_id", .text a.requestId), ("tx_hash", .text a.txHash),
    ("log_hash_on_chain", .text a.chainHash), ("block_height", .number a.blockHeight)]⟩

def failureForm (f : Failure) : Object :=
  ⟨[("request_id", .text f.requestId), ("error_message", .text f.errorMessage)]⟩

def ledgerRecordForm (r : LedgerRecord) : Object :=
  ⟨[("source", .text r.source), ("log_hash", .text r.logHash), ("log_content", .text r.content),
    ("sender_org_id", .text r.orgId), ("timestamp", .text r.timestamp)]⟩

def payloadForm (p : Ledger.Payload) : Object :=
  ⟨[("org_id", .text p.orgId), ("timestamp", .text p.timestamp), ("content", .text p.content)]⟩

theorem write_submission (x : Submission) :
    submission.write x = Codec.object.write (submissionForm x) := rfl

theorem write_anchoring (a : Anchoring) :
    anchoring.write a = Codec.object.write (anchoringForm a) := rfl

theorem write_failure (f : Failure) : failure.write f = Codec.object.write (failureForm f) := rfl

theorem write_ledgerRecord (r : LedgerRecord) :
    ledgerRecord.write r = Codec.object.write (ledgerRecordForm r) := rfl

theorem write_payload (p : Ledger.Payload) :
    payload.write p = Codec.object.write (payloadForm p) := rfl

end AnchorQueue.Json
