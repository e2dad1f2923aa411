import AnchorQueue.Cli.Parse
import AnchorQueue.Store.Basic

/-!
# Commands

A command with its arguments as values. There is no command where a required argument is missing.
-/

namespace AnchorQueue.Cli

/-- The log of a submission, or only its hash. -/
inductive LogSource
  | content (text : String)
  | hash (value : String)
  deriving DecidableEq, Repr

inductive Command
  | migrate
  | submit (org : String) (log : LogSource) (requestId : Option String)
  | claim (ids : List String) (ceiling : Option UInt32)
  | complete (a : Anchoring)
  | fail (f : Failure)
  | retry (ids : List String) (lastError : String)
  | lookup (k : Key)
  deriving DecidableEq, Repr

namespace Command

def value? (m : Matches) (valueName : String) : Option String :=
  (m.values valueName).head?

def someValues (m : Matches) (valueName : String) : Option (List String) :=
  match m.values valueName with
  | [] => none
  | vs => some vs

def logSource? (m : Matches) : Option LogSource :=
  (value? m "CONTENT").map .content <|> (value? m "HASH").map .hash

def ceiling? (m : Matches) : Option UInt32 :=
  (value? m "MAX_RETRIES").bind fun v => (readWord32 v).toOption

def ofMatches (s : CommandSpec) (m : Matches) : Option Command :=
  if s = submitSpec then do
    return .submit (← value? m "ORG") (← logSource? m) (value? m "REQUEST_ID")
  else if s = claimSpec then do
    return .claim (← someValues m "IDS") (ceiling? m)
  else if s = completeSpec then do
    let requestId ← value? m "REQUEST_ID"
    let txHash ← value? m "TX_HASH"
    let blockHeight ← (value? m "BLOCK_HEIGHT").bind fun v => (readWord64 v).toOption
    let chainHash ← value? m "LOG_HASH_ON_CHAIN"
    return .complete { requestId, txHash, blockHeight, chainHash }
  else if s = failSpec then do
    return .fail ⟨← value? m "REQUEST_ID", ← value? m "MESSAGE"⟩
  else if s = retrySpec then do
    return .retry (← someValues m "IDS") (← value? m "ERROR")
  else if s = showSpec then do
    return .lookup (.requestId (← value? m "REQUEST_ID"))
  else if s = findSpec then do
    return .lookup (.logHash (← value? m "LOG_HASH"))
  else some .migrate

/-- The command that a command line asks for. -/
def ofWords (words : List String) : Except Stop Command :=
  match parse words with
  | .error e => .error e
  | .ok (s, m) =>
    match ofMatches s m with
    | some c => .ok c
    | none => .error (.usage .missing)

end Command

end AnchorQueue.Cli
