import AnchorQueue.Proofs.Json.Schema
import AnchorQueue.Store.Batch

/-!
# Recordsets

A server takes the rows of a document from the objects of an array, and each column from the last
member that has its name. So it finds in the document of a batch what the items of the batch have.
-/

namespace AnchorQueue

open AnchorQueue.Json
open AnchorQueue.Time (Instant)

namespace Json.Object

variable (d : Object) (column : String)

def last? : Option Scalar :=
  d.members.reverse.lookup column

/-- What is missing or null is null in the column. -/
def text : Option String :=
  match d.last? column with
  | some (.text s) => some s
  | some (.number n) => some (Text.decimal n.toNat)
  | _ => none

def timestamp : Option Instant :=
  match d.last? column with
  | some (.text s) => Time.Rfc3339.read? s.toList
  | _ => none

/-- Of the numbers only those within the range of the column. -/
def bigint : Option Int64 :=
  match d.last? column with
  | some (.number n) => if n.toNat < Nat.pow 2 63 then some n.toInt64 else none
  | _ => none

end Json.Object

namespace Sql

def recordset (document : String) : Except Fault (List Object) :=
  decode Codec.object.list document

theorem recordset_encode {α : Type} {c : Codec α} {form : α → Object}
    (h : ∀ a, c.write a = Codec.object.write (form a)) (as : List α) :
    recordset (encode c.list as) = .ok (as.map form) := by
  have hItems : as.map c.write = (as.map form).map Codec.object.write := by simp [h]
  have hWrite : c.list.write as = Codec.object.list.write (as.map form) := by
    simp only [Codec.list, hItems]
  rw [encode, hWrite]
  exact (Codec.Lawful.object.list Codec.solid_object).decode_encode _

theorem timestamp_submissionForm (x : Submission) :
    (submissionForm x).timestamp "received_timestamp" = some x.receivedAt := by
  have hText : (submissionForm x).last? "received_timestamp" =
      some (.text (String.ofList (Time.Rfc3339.write x.receivedAt))) := rfl
  simp only [Object.timestamp, hText, String.toList_ofList, Time.Rfc3339.read?_write]

/-- The row of a document that an insert makes a new row of. None of its columns may be null. -/
def submission? (d : Object) : Option Submission := do
  let requestId ← d.text "request_id"
  let logHash ← d.text "log_hash"
  let sourceOrg ← d.text "source_org_id"
  let receivedAt ← d.timestamp "received_timestamp"
  return { requestId, logHash, sourceOrg, receivedAt }

theorem submission?_submissionForm (x : Submission) :
    submission? (submissionForm x) = some x := by
  have hId : (submissionForm x).text "request_id" = some x.requestId := rfl
  have hHash : (submissionForm x).text "log_hash" = some x.logHash := rfl
  have hOrg : (submissionForm x).text "source_org_id" = some x.sourceOrg := rfl
  simp only [submission?, hId, hHash, hOrg, timestamp_submissionForm]
  rfl

theorem mapM_submission? (submissions : List Submission) :
    (submissions.map submissionForm).mapM submission? = some submissions := by
  have hPure : submission? ∘ submissionForm = pure := funext submission?_submissionForm
  rw [List.mapM_map, hPure, List.mapM_pure, List.map_id']
  rfl

theorem bigint_anchoringForm {a : Anchoring}
    (h : a.blockHeight.toNat ≤ Batch.greatestHeight) :
    (anchoringForm a).bigint "block_height" = some a.blockHeight.toInt64 := by
  have hNumber : (anchoringForm a).last? "block_height" = some (.number a.blockHeight) := rfl
  have hRange : a.blockHeight.toNat < Nat.pow 2 63 := Nat.lt_of_le_pred (by decide) h
  simp only [Object.bigint, hNumber, if_pos hRange]

theorem isSome_bigint_of_le {anchorings : List Anchoring}
    (h : ∀ a ∈ anchorings, a.blockHeight.toNat ≤ Batch.greatestHeight) :
    ∀ d ∈ anchorings.map anchoringForm, (d.bigint "block_height").isSome := by
  rw [List.forall_mem_map]
  intro a ha
  rw [bigint_anchoringForm (h a ha)]
  rfl

end Sql

end AnchorQueue
