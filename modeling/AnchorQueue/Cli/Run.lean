import AnchorQueue.Cli.Command
import AnchorQueue.Sql.Address
import AnchorQueue.Sql.Client
import AnchorQueue.Telemetry.Filter
import AnchorQueue.Telemetry.Setup
import AnchorQueue.Text.Split

/-!
# Running a command

The command line is read first, then the configuration, then telemetry starts, then the database is
connected, and last the command runs. The first of these to fail ends the program.
-/

namespace AnchorQueue.Cli

open AnchorQueue.Sql (Reply Statement Exchange)
open AnchorQueue.Time (Instant)

/-- A connected database: the clock, an id that nobody has, and what the server will reply. -/
structure Peer where
  now : Instant
  freshId : String
  replies : List Reply

structure Exit where
  code : Nat
  stdout : String
  stderr : String
  sent : List Statement

namespace Exit

def usage (e : UsageError) : Exit :=
  ⟨2, "", e.message ++ "\n", []⟩

def help (t : Topic) : Exit :=
  ⟨0, t.text, "", []⟩

/-- One cause, each of its lines after the same blanks. -/
def indented (first next text : String) : String :=
  let lines := (Text.split '\n' text.toList).map String.ofList
  first ++ String.intercalate ("\n" ++ next) lines

def numbered : Nat → List String → List String
  | _, [] => []
  | n, text :: texts =>
    let number := Text.decimal n
    let blanks := String.ofList (List.replicate (5 - number.length) ' ')
    ("\n" ++ indented (blanks ++ number ++ ": ") "       " text) :: numbered (n + 1) texts

/-- The error and, under a heading, what lies behind it. -/
def report (e : StoreError) : String :=
  "Error: " ++ e.message ++
    (match e.causes with
      | [] => ""
      | [text] => "\n\nCaused by:\n" ++ indented "    " "    " text
      | texts => "\n\nCaused by:" ++ String.join (numbered 0 texts)) ++ "\n"

def failure (sent : List Statement) (e : StoreError) : Exit :=
  ⟨1, "", report e, sent⟩

/-- The output of a command from what it gave; without an answer there is no output either. -/
def ofExchange {α : Type} (render : α → String) (e : Exchange α) : Exit :=
  match e.result with
  | some (.ok a) => ⟨0, render a, "", e.sent⟩
  | some (.error err) => failure e.sent err
  | none => ⟨1, "", "", e.sent⟩

end Exit

def lines (ls : List String) : String :=
  String.join (ls.map fun l => l ++ "\n")

def orDash (s : Option String) : String :=
  s.getD "-"

def showTime (t : Instant) : String :=
  Time.Rfc3339.display t

def anchorLines (j : Job) : List String :=
  match j.txHash with
  | none => []
  | some tx =>
    ["---", "Tx Hash:     " ++ tx,
      "Block:       " ++ orDash (j.blockHeight.map fun h => Text.decimal h.toNat),
      "Chain Hash:  " ++ orDash j.chainHash]

def errorLines (j : Job) : List String :=
  match j.errorMessage with
  | none => []
  | some text => ["Error:       " ++ text]

def showJob (j : Job) : String :=
  lines (["Request ID:  " ++ j.requestId, "Log Hash:    " ++ j.logHash,
    "Org:         " ++ j.sourceOrg, "Status:      " ++ j.status.name,
    "Retries:     " ++ Text.decimal j.retries.toNat, "Received:    " ++ showTime j.receivedAt,
    "Stored:      " ++ showTime j.storedAt,
    "Started:     " ++ orDash (j.startedAt.map showTime),
    "Finished:    " ++ orDash (j.finishedAt.map showTime)] ++ anchorLines j ++ errorLines j)

def showSubmitted (requestId : String) (r : BatchReport) : String :=
  (if r.affected = 1 then "Submitted: " else "Already present: ") ++ requestId ++ "\n"

def showClaimed (jobs : List (String × Job)) : String :=
  if jobs.isEmpty then "Nothing claimable.\n"
  else
    let sorted := jobs.mergeSort fun a b => decide (a.1 ≤ b.1)
    lines (sorted.map fun e =>
      "Claimed: " ++ e.1 ++ " (retries: " ++ Text.decimal e.2.retries.toNat ++ ")")

def showReport (verb : String) (r : BatchReport) : String :=
  verb ++ ": " ++ Text.decimal r.affected ++ " of " ++ Text.decimal r.requested ++ "\n"

def showResult (onReport : BatchReport → String) : BatchResult → String
  | .report r => onReport r
  | .claimed jobs => showClaimed jobs

def submission (peer : Peer) (org requestId : String) : LogSource → Submission
  | .content text => .ofContent requestId org text peer.now
  | .hash value => ⟨requestId, value, org, peer.now⟩

def runBatch (config : Config) (peer : Peer) (b : Batch) (onReport : BatchReport → String) : Exit :=
  .ofExchange (showResult onReport) (Sql.perform config.storeOptions peer.now b peer.replies)

def runCommand (config : Config) (peer : Peer) : Command → Exit
  | .migrate => .ofExchange (fun _ => "Migrations applied.\n") (Sql.migrate peer.replies)
  | .submit org log requestId =>
    let id := requestId.getD peer.freshId
    runBatch config peer (.insert [submission peer org id log]) (showSubmitted id)
  | .claim ids ceiling =>
    runBatch config peer (.claim ids (ceiling.getD config.maxRetries)) (showReport "Claimed")
  | .complete a => runBatch config peer (.complete [a]) (showReport "Completed")
  | .fail f => runBatch config peer (.fail [f]) (showReport "Failed")
  | .retry ids lastError => runBatch config peer (.retry ids lastError) (showReport "Requeued")
  | .lookup k => .ofExchange showJob (Sql.find k peer.replies)

/-- A pool without connections never hands one out. -/
def connected (config : Config) (connect : String → Except DatabaseError Peer) :
    Except DatabaseError Peer := do
  Sql.checkAddress config.databaseUrl.expose
  if config.maxConnections = 0 then .error .poolTimedOut
  else connect config.databaseUrl.expose

def start (config : Config) (connect : String → Except DatabaseError Peer) :
    Except StoreError Peer := do
  config.telemetry.install false
  (connected config connect).mapError StoreError.storage

/-- Notices about the log filter come before everything else that is written. -/
def runConfigured (config : Config) (connect : String → Except DatabaseError Peer)
    (c : Command) : Exit :=
  let exit : Exit := match start config connect with
    | .error e => .failure [] e
    | .ok peer => runCommand config peer c
  { exit with stderr := LogFilter.notices config.logLevel ++ exit.stderr }

def run (words : List String) (env : Environment)
    (connect : String → Except DatabaseError Peer) : Exit :=
  match Command.ofWords words with
  | .error (.usage e) => .usage e
  | .error (.help t) => .help t
  | .ok c =>
    match Config.load env with
    | .error f => .failure [] f.toError
    | .ok config => runConfigured config connect c

end AnchorQueue.Cli
