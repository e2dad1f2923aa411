import AnchorQueue.Main
import AnchorQueue.Proofs.Batch.Accepted
import AnchorQueue.Proofs.Batch.Faults
import AnchorQueue.Proofs.Except
import AnchorQueue.Proofs.Job.History
import AnchorQueue.Proofs.Json.Codec
import AnchorQueue.Proofs.Json.Lexer
import AnchorQueue.Proofs.Json.Record
import AnchorQueue.Proofs.Json.Schema
import AnchorQueue.Proofs.Ledger.FirstValue
import AnchorQueue.Proofs.Ledger.FormEncoding
import AnchorQueue.Proofs.Ledger.Payload
import AnchorQueue.Proofs.Query.Isolation
import AnchorQueue.Proofs.Query.Ownership
import AnchorQueue.Proofs.Query.PathSegment
import AnchorQueue.Proofs.Query.Service
import AnchorQueue.Proofs.Sql.Agreement
import AnchorQueue.Proofs.Sql.Ceiling
import AnchorQueue.Proofs.Sql.Claiming
import AnchorQueue.Proofs.Sql.Columns
import AnchorQueue.Proofs.Sql.Dialogue
import AnchorQueue.Proofs.Sql.Documents
import AnchorQueue.Proofs.Sql.Exchange
import AnchorQueue.Proofs.Sql.Execution
import AnchorQueue.Proofs.Sql.Following
import AnchorQueue.Proofs.Sql.Mirror
import AnchorQueue.Proofs.Sql.Progress
import AnchorQueue.Proofs.Sql.Refusal
import AnchorQueue.Proofs.Sql.Script
import AnchorQueue.Proofs.Sql.Server
import AnchorQueue.Proofs.Sql.Sharing
import AnchorQueue.Proofs.Sql.Table
import AnchorQueue.Proofs.Sql.TimeLimit
import AnchorQueue.Proofs.Sql.Transaction
import AnchorQueue.Proofs.Sql.Verdict
import AnchorQueue.Proofs.Store.Accounts
import AnchorQueue.Proofs.Store.Advance
import AnchorQueue.Proofs.Store.Affected
import AnchorQueue.Proofs.Store.Attempts
import AnchorQueue.Proofs.Store.Change
import AnchorQueue.Proofs.Store.Chronology
import AnchorQueue.Proofs.Store.Claim
import AnchorQueue.Proofs.Store.Earliest
import AnchorQueue.Proofs.Store.Effects
import AnchorQueue.Proofs.Store.Exclusion
import AnchorQueue.Proofs.Store.FirstWrite
import AnchorQueue.Proofs.Store.Independence
import AnchorQueue.Proofs.Store.Lifecycle
import AnchorQueue.Proofs.Store.Reordering
import AnchorQueue.Proofs.Store.Repetition
import AnchorQueue.Proofs.Store.Run
import AnchorQueue.Proofs.Store.Search
import AnchorQueue.Proofs.Store.Shape
import AnchorQueue.Proofs.Store.Splitting
import AnchorQueue.Proofs.Store.Stability
import AnchorQueue.Proofs.Store.Step
import AnchorQueue.Proofs.Store.Sum
import AnchorQueue.Proofs.Text.Decimal
import AnchorQueue.Proofs.Text.Utf8
import AnchorQueue.Proofs.Time.Timestamp
import AnchorQueue.Store.Perform
import AnchorQueue.Proofs.Batch.FirstOccurrence
import AnchorQueue.Proofs.Text.Numeral
import AnchorQueue.Proofs.Config.Load
import AnchorQueue.Proofs.Config.Secrecy
import AnchorQueue.Proofs.Query.Disclosure
