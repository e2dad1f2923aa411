import AnchorQueue.Sql.Statement

/-!
# Commands

What a server knows of the statements that it gets: their texts and their arguments. The text tells
which command it is.
-/

namespace AnchorQueue.Sql

inductive Command
  | beginTransaction
  | commit
  | rollback
  | limitTime
  | insert
  | lock
  | exhaust
  | markProcessing
  | complete
  | fail
  | requeue
  | findId
  | findHash
  deriving DecidableEq

namespace Command

/-- The columns of a row, in the order of the table. -/
def rowColumns : String :=
  "request_id, log_hash, source_org_id, received_timestamp, status, received_at_db, " ++
    "processing_started_at, processing_finished_at, tx_hash, block_height, log_hash_on_chain, " ++
    "error_message, retry_count"

def text : Command → String
  | beginTransaction => "BEGIN"
  | commit => "COMMIT"
  | rollback => "ROLLBACK"
  | limitTime => "SELECT set_config('statement_timeout', $1, true)"
  | insert =>
    "INSERT INTO tbl_log_status (request_id, log_hash, source_org_id, received_timestamp, " ++
      "status, retry_count) SELECT d.request_id, d.log_hash, d.source_org_id, " ++
      "d.received_timestamp, 'RECEIVED', 0 FROM jsonb_to_recordset($1) AS d( request_id text, " ++
      "log_hash text, source_org_id text, received_timestamp timestamptz) " ++
      "ON CONFLICT (request_id) DO NOTHING"
  | lock =>
    "SELECT request_id, retry_count FROM tbl_log_status " ++
      "WHERE request_id = ANY($1) AND status = 'RECEIVED' FOR UPDATE SKIP LOCKED"
  | exhaust =>
    "UPDATE tbl_log_status SET status = 'FAILED', error_message = $1, " ++
      "processing_finished_at = $2 WHERE request_id = ANY($3) AND status = 'RECEIVED'"
  | markProcessing =>
    "UPDATE tbl_log_status SET status = 'PROCESSING', processing_started_at = $1 " ++
      "WHERE request_id = ANY($2) AND status = 'RECEIVED' RETURNING " ++ rowColumns
  | complete =>
    "UPDATE tbl_log_status AS t SET status = 'COMPLETED', tx_hash = d.tx_hash, " ++
      "log_hash_on_chain = d.log_hash_on_chain, block_height = d.block_height, " ++
      "error_message = NULL, processing_finished_at = $2 FROM jsonb_to_recordset($1) AS d( " ++
      "request_id text, tx_hash text, log_hash_on_chain text, block_height bigint) " ++
      "WHERE t.request_id = d.request_id AND t.status = 'PROCESSING'"
  | fail =>
    "UPDATE tbl_log_status AS t SET status = 'FAILED', error_message = d.error_message, " ++
      "processing_finished_at = $2 FROM jsonb_to_recordset($1) AS d(request_id text, " ++
      "error_message text) WHERE t.request_id = d.request_id AND t.status = 'PROCESSING'"
  | requeue =>
    "UPDATE tbl_log_status SET status = 'RECEIVED', retry_count = retry_count + 1, " ++
      "error_message = $1, processing_started_at = NULL " ++
      "WHERE request_id = ANY($2) AND status = 'PROCESSING'"
  | findId =>
    "SELECT " ++ rowColumns ++ " FROM tbl_log_status WHERE request_id = $1"
  | findHash =>
    "SELECT " ++ rowColumns ++ " FROM tbl_log_status WHERE log_hash = $1 " ++
      "ORDER BY received_at_db ASC, request_id ASC LIMIT 1"

def ofKey : Key → Command
  | .requestId _ => findId
  | .logHash _ => findHash

def all : List Command :=
  [beginTransaction, commit, rollback, limitTime, insert, lock, exhaust, markProcessing, complete,
    fail, requeue, findId, findHash]

def ofText? (text : String) : Option Command :=
  all.find? fun c => c.text = text

theorem ofText?_text (c : Command) : ofText? c.text = some c := by
  cases c <;> decide +kernel

end Command

/-- The command that a statement is. The schema and the ping have no part in the queue. -/
def Statement.command? : Statement → Option Command
  | beginTransaction => some .beginTransaction
  | commit => some .commit
  | rollback => some .rollback
  | limitTime _ => some .limitTime
  | insert _ => some .insert
  | lock _ => some .lock
  | exhaust _ _ _ => some .exhaust
  | markProcessing _ _ => some .markProcessing
  | complete _ _ => some .complete
  | fail _ _ => some .fail
  | requeue _ _ => some .requeue
  | find k => some (.ofKey k)
  | createSchema => none
  | ping => none

theorem Statement.sql_eq_text {s : Statement} {c : Command} (h : s.command? = some c) :
    s.sql = c.text := by
  cases s with
  | find k =>
    cases h
    cases k <;> rfl
  | createSchema | ping => cases h
  | _ =>
    cases h
    rfl

/-- The text of a statement alone tells which command it is. -/
theorem Command.ofText?_sql (s : Statement) : ofText? s.sql = s.command? := by
  cases h : s.command? with
  | some c => rw [Statement.sql_eq_text h, ofText?_text]
  | none =>
    cases s with
    | createSchema | ping => decide +kernel
    | _ => cases h

namespace Statement

variable {s : Statement}

theorem command?_of_sql {c : Command} (h : s.sql = c.text) : s.command? = some c := by
  rw [← Command.ofText?_sql, h, Command.ofText?_text]

theorem eq_exhaust_of_sql (h : s.sql = Command.exhaust.text) :
    ∃ message now ids, s = exhaust message now ids := by
  have hCommand := command?_of_sql h
  cases s with
  | exhaust message now ids => exact ⟨message, now, ids, rfl⟩
  | find k => cases k <;> cases hCommand
  | _ => cases hCommand

theorem eq_markProcessing_of_sql (h : s.sql = Command.markProcessing.text) :
    ∃ now ids, s = markProcessing now ids := by
  have hCommand := command?_of_sql h
  cases s with
  | markProcessing now ids => exact ⟨now, ids, rfl⟩
  | find k => cases k <;> cases hCommand
  | _ => cases hCommand

end Statement

end AnchorQueue.Sql
