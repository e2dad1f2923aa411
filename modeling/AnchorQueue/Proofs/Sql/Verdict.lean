import AnchorQueue.Proofs.Sql.Dialogue
import AnchorQueue.Proofs.Sql.Table

/-!
# Verdicts on statements

A reply lets a statement succeed, fail, or go unanswered. A claim reads the rows that it gets; rows
that it cannot read count as a failure of their statement. The status of a row is not read before
the commit, and the table admits no other text there than the name of a status.
-/

namespace AnchorQueue.Sql

inductive Verdict
  | succeeded
  | failed (cause : DatabaseError)
  | unanswered
  deriving DecidableEq

/-- What is wrong with a value that was read. -/
def readFault? {α : Type} : Except DatabaseError α → Option DatabaseError
  | .ok _ => none
  | .error cause => some cause

namespace Statement

/-- Only a claim reads the rows that it gets. -/
def rowFault? : Statement → List Row → Option DatabaseError
  | lock _, rows => readFault? (rows.mapM Row.locked)
  | markProcessing _ _, rows => readFault? (rows.mapM Row.full)
  | _, _ => none

/-- A statement whose rows cannot be read has failed. -/
def verdict (s : Statement) : Reply → Verdict
  | .done _ => .succeeded
  | .rows rows => (s.rowFault? rows).elim .succeeded .failed
  | .refused text => .failed (.server text)
  | .silent => .unanswered

theorem rowFault?_nil (s : Statement) : s.rowFault? [] = none := by
  cases s <;> rfl

end Statement

namespace Reply

theorem verdict_of_response? {r : Reply} {a : Response} (h : r.response? = some a)
    (s : Statement) : s.verdict r = (s.rowFault? a.rows).elim .succeeded .failed := by
  cases r with
  | done n =>
    cases h
    rw [s.rowFault?_nil]
    rfl
  | rows rs =>
    cases h
    rfl
  | refused text => cases h
  | silent => cases h

/-- The rows that a claim has locked, with their retries; none if they cannot be read. -/
def locked : Reply → List (String × UInt32)
  | rows rs =>
    match rs.mapM Row.locked with
    | .ok pairs => pairs.map fun l => (l.1, lockedRetries l.2)
    | .error _ => []
  | _ => []

theorem locked_of_response? {r : Reply} {a : Response} {pairs : List (String × Int32)}
    (h : r.response? = some a) (hRead : a.rows.mapM Row.locked = .ok pairs) :
    r.locked = pairs.map fun l => (l.1, lockedRetries l.2) := by
  cases r with
  | done n =>
    cases h
    cases hRead
    rfl
  | rows rs =>
    cases h
    rw [locked, hRead]
  | refused text => cases h
  | silent => cases h

/-- Every status that is returned is one of those that the table admits. -/
def Checked : Reply → Prop
  | rows rs => ∀ row ∈ rs, ∀ text, row.status = some text → ∃ status : Status, status.name = text
  | _ => True

theorem Checked.of_response? {r : Reply} {a : Response} (hr : r.Checked)
    (h : r.response? = some a) {row : Row} (hRow : row ∈ a.rows) {text : String}
    (hText : row.status = some text) : ∃ status : Status, status.name = text := by
  cases r with
  | done n =>
    cases h
    cases hRow
  | rows rs =>
    cases h
    exact hr row hRow text hText
  | refused text => cases h
  | silent => cases h

end Reply

theorem exists_jobs_of_checked {r : Reply} {a : Response} (h : r.Checked)
    (hResponse : r.response? = some a) {rows : List FullRow}
    (hRows : a.rows.mapM Row.full = .ok rows) :
    ∃ jobs, rows.mapM FullRow.toJob = .ok jobs := by
  cases hJobs : rows.mapM FullRow.toJob with
  | ok jobs => exact ⟨jobs, rfl⟩
  | error e =>
    obtain ⟨f, hf, hFault⟩ := mapM_eq_error hJobs
    obtain ⟨row, hRow, hFull⟩ := mem_of_mapM_eq_ok hRows hf
    have hText : row.status = some f.status := by
      rw [FullRow.eq_toRow_of_full hFull]
      rfl
    obtain ⟨status, hStatus⟩ := h.of_response? hResponse hRow hText
    rw [FullRow.toJob, ← hStatus, Status.parse, Status.ofName?_name] at hFault
    cases hFault

/-- The reply to a statement by its place. -/
def replyTo (replies : List Reply) (i : Nat) : Reply :=
  replies.getD i (.done 0)

theorem replyTo_tail (replies : List Reply) (i : Nat) :
    replyTo replies.tail i = replyTo replies (i + 1) := by
  cases replies <;> rfl

theorem nextReply_eq (replies : List Reply) : Dialogue.nextReply replies = replyTo replies 0 := by
  cases replies <;> rfl

theorem checked_replyTo {replies : List Reply} (h : ∀ r ∈ replies, r.Checked) (i : Nat) :
    (replyTo replies i).Checked := by
  rw [replyTo, List.getD_eq_getElem?_getD]
  cases hReply : replies[i]? with
  | none => trivial
  | some r => exact h r (List.mem_of_getElem? hReply)

end AnchorQueue.Sql
