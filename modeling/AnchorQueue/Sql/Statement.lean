import AnchorQueue.Json.Schema
import AnchorQueue.Store.Basic
import AnchorQueue.Time.Duration

/-!
# Statements

The statements that the queue sends to the database, with their texts and parameters. A batch goes
as one JSON document, so that every id travels with its own fields.
-/

namespace AnchorQueue.Sql

open AnchorQueue.Time (Duration Instant)

inductive Statement
  | beginTransaction
  | commit
  | rollback
  | limitTime (limit : Duration)
  | insert (submissions : List Submission)
  | lock (ids : List String)
  | exhaust (message : String) (now : Instant) (ids : List String)
  | markProcessing (now : Instant) (ids : List String)
  | complete (anchorings : List Anchoring) (now : Instant)
  | fail (failures : List Failure) (now : Instant)
  | requeue (lastError : String) (ids : List String)
  | find (k : Key)
  | createSchema
  | ping
  deriving DecidableEq, Repr

inductive Param
  | text (value : String)
  | texts (values : List String)
  | document (json : String)
  | instant (value : Instant)
  deriving DecidableEq, Repr

namespace Statement

def columns : String :=
  "request_id, log_hash, source_org_id, received_timestamp, status, received_at_db, " ++
    "processing_started_at, processing_finished_at, tx_hash, block_height, log_hash_on_chain, " ++
    "error_message, retry_count"

def schema : String :=
  "CREATE TABLE IF NOT EXISTS tbl_log_status ( request_id TEXT PRIMARY KEY, " ++
    "log_hash TEXT NOT NULL, source_org_id TEXT NOT NULL, " ++
    "received_timestamp TIMESTAMPTZ NOT NULL, status TEXT NOT NULL DEFAULT 'RECEIVED' " ++
    "CHECK (status IN ('RECEIVED', 'PROCESSING', 'COMPLETED', 'FAILED')), " ++
    "received_at_db TIMESTAMPTZ NOT NULL DEFAULT now(), processing_started_at TIMESTAMPTZ, " ++
    "processing_finished_at TIMESTAMPTZ, tx_hash TEXT, block_height BIGINT, " ++
    "log_hash_on_chain TEXT, error_message TEXT, " ++
    "retry_count INTEGER NOT NULL DEFAULT 0 CHECK (retry_count >= 0) ); " ++
    "CREATE INDEX IF NOT EXISTS idx_log_status_log_hash ON tbl_log_status (log_hash); " ++
    "CREATE INDEX IF NOT EXISTS idx_log_status_received ON tbl_log_status (received_at_db) " ++
    "WHERE status = 'RECEIVED';"

/-- The text, with single spaces between words. -/
def sql : Statement → String
  | beginTransaction => "BEGIN"
  | commit => "COMMIT"
  | rollback => "ROLLBACK"
  | limitTime _ => "SELECT set_config('statement_timeout', $1, true)"
  | insert _ =>
    "INSERT INTO tbl_log_status (request_id, log_hash, source_org_id, received_timestamp, " ++
      "status, retry_count) SELECT d.request_id, d.log_hash, d.source_org_id, " ++
      "d.received_timestamp, 'RECEIVED', 0 FROM jsonb_to_recordset($1) AS d( request_id text, " ++
      "log_hash text, source_org_id text, received_timestamp timestamptz) " ++
      "ON CONFLICT (request_id) DO NOTHING"
  | lock _ =>
    "SELECT request_id, retry_count FROM tbl_log_status " ++
      "WHERE request_id = ANY($1) AND status = 'RECEIVED' FOR UPDATE SKIP LOCKED"
  | exhaust _ _ _ =>
    "UPDATE tbl_log_status SET status = 'FAILED', error_message = $1, " ++
      "processing_finished_at = $2 WHERE request_id = ANY($3) AND status = 'RECEIVED'"
  | markProcessing _ _ =>
    "UPDATE tbl_log_status SET status = 'PROCESSING', processing_started_at = $1 " ++
      "WHERE request_id = ANY($2) AND status = 'RECEIVED' RETURNING " ++ columns
  | complete _ _ =>
    "UPDATE tbl_log_status AS t SET status = 'COMPLETED', tx_hash = d.tx_hash, " ++
      "log_hash_on_chain = d.log_hash_on_chain, block_height = d.block_height, " ++
      "error_message = NULL, processing_finished_at = $2 FROM jsonb_to_recordset($1) AS d( " ++
      "request_id text, tx_hash text, log_hash_on_chain text, block_height bigint) " ++
      "WHERE t.request_id = d.request_id AND t.status = 'PROCESSING'"
  | fail _ _ =>
    "UPDATE tbl_log_status AS t SET status = 'FAILED', error_message = d.error_message, " ++
      "processing_finished_at = $2 FROM jsonb_to_recordset($1) AS d(request_id text, " ++
      "error_message text) WHERE t.request_id = d.request_id AND t.status = 'PROCESSING'"
  | requeue _ _ =>
    "UPDATE tbl_log_status SET status = 'RECEIVED', retry_count = retry_count + 1, " ++
      "error_message = $1, processing_started_at = NULL " ++
      "WHERE request_id = ANY($2) AND status = 'PROCESSING'"
  | find (.requestId _) =>
    "SELECT " ++ columns ++ " FROM tbl_log_status WHERE request_id = $1"
  | find (.logHash _) =>
    "SELECT " ++ columns ++ " FROM tbl_log_status WHERE log_hash = $1 " ++
      "ORDER BY received_at_db ASC, request_id ASC LIMIT 1"
  | createSchema => schema
  | ping => "SELECT 1"

def params : Statement → List Param
  | limitTime limit => [.text (Text.decimal limit.millis ++ "ms")]
  | insert submissions => [.document (Json.encode (Json.Codec.list Json.submission) submissions)]
  | lock ids => [.texts ids]
  | exhaust message now ids => [.text message, .instant now, .texts ids]
  | markProcessing now ids => [.instant now, .texts ids]
  | complete anchorings now =>
    [.document (Json.encode (Json.Codec.list Json.anchoring) anchorings), .instant now]
  | fail failures now =>
    [.document (Json.encode (Json.Codec.list Json.failure) failures), .instant now]
  | requeue lastError ids => [.text lastError, .texts ids]
  | find k => [.text k.value]
  | _ => []

end Statement

end AnchorQueue.Sql
