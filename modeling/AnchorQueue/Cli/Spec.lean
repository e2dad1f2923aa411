/-!
# The commands

Which commands there are, what arguments they take, and what the help says about them.
-/

namespace AnchorQueue.Cli

inductive ValueKind
  | text
  | word32
  | word64
  deriving DecidableEq, Repr

/-- An option if it has a long name, otherwise known by its place. -/
structure Argument where
  valueName : String
  long : Option String
  help : String
  kind : ValueKind
  isMany : Bool
  isRequired : Bool
  deriving DecidableEq, Repr

namespace Argument

def place (valueName help : String) : Argument :=
  ⟨valueName, none, help, .text, false, true⟩

def option (long valueName help : String) : Argument :=
  ⟨valueName, some long, help, .text, false, false⟩

def display (a : Argument) : String :=
  match a.long with
  | some long => "--" ++ long ++ " <" ++ a.valueName ++ ">"
  | none => "<" ++ a.valueName ++ ">" ++ if a.isMany then "..." else ""

end Argument

structure CommandSpec where
  name : String
  about : String
  arguments : List Argument
  /-- Pairs of arguments that cannot go together, by the names of their values. -/
  conflicts : List (String × String)
  deriving DecidableEq, Repr

namespace CommandSpec

def places (s : CommandSpec) : List Argument :=
  s.arguments.filter fun a => a.long.isNone

def options (s : CommandSpec) : List Argument :=
  s.arguments.filter fun a => a.long.isSome

end CommandSpec

def migrateSpec : CommandSpec :=
  ⟨"migrate", "Apply pending database migrations", [], []⟩

def submitSpec : CommandSpec where
  name := "submit"
  about := "Enqueue a new task"
  arguments :=
    [.place "ORG" "Submitting organization",
      .option "content" "CONTENT" "Raw log content (hashed with SHA-256)",
      .option "hash" "HASH" "Precomputed log hash",
      .option "request-id" "REQUEST_ID" "Request ID (defaults to a fresh UUID)"]
  conflicts := [("CONTENT", "HASH")]

def claimSpec : CommandSpec where
  name := "claim"
  about := "Claim RECEIVED tasks for processing"
  arguments :=
    [{ Argument.place "IDS" "Candidate request IDs" with isMany := true },
      { Argument.option "max-retries" "MAX_RETRIES" "Retry ceiling (defaults to MAX_RETRIES)" with
        kind := .word32 }]
  conflicts := []

def completeSpec : CommandSpec where
  name := "complete"
  about := "Mark a PROCESSING task as anchored"
  arguments :=
    [.place "REQUEST_ID" "", .place "TX_HASH" "",
      { Argument.place "BLOCK_HEIGHT" "" with kind := .word64 }, .place "LOG_HASH_ON_CHAIN" ""]
  conflicts := []

def failSpec : CommandSpec :=
  ⟨"fail", "Mark a PROCESSING task as permanently failed",
    [.place "REQUEST_ID" "", .place "MESSAGE" ""], []⟩

def retrySpec : CommandSpec where
  name := "retry"
  about := "Return PROCESSING tasks to the queue"
  arguments :=
    [{ Argument.place "IDS" "" with isMany := true },
      { Argument.option "error" "ERROR" "Last error to record" with isRequired := true }]
  conflicts := []

def showSpec : CommandSpec :=
  ⟨"show", "Show a task by request ID", [.place "REQUEST_ID" ""], []⟩

def findSpec : CommandSpec :=
  ⟨"find", "Show the task with the given log hash", [.place "LOG_HASH" ""], []⟩

def commandSpecs : List CommandSpec :=
  [migrateSpec, submitSpec, claimSpec, completeSpec, failSpec, retrySpec, showSpec, findSpec]

end AnchorQueue.Cli
