import AnchorQueue.Error.Database
import AnchorQueue.Job.Status
import AnchorQueue.Time.Duration

/-!
# Errors of the job store

Each error is kept by its cause. The texts are here, and so is the rule which errors a caller may
answer by sending the same batch again.
-/

namespace AnchorQueue

open AnchorQueue.Time (Duration)

/-- A step of the schema setup: one numbered migration, or the transaction around them. -/
inductive MigrationStep
  | version (number : Nat)
  | transaction
  deriving DecidableEq, Repr

structure MigrationError where
  step : MigrationStep
  cause : DatabaseError
  deriving DecidableEq, Repr

namespace MigrationError

def message (e : MigrationError) : String :=
  match e.step with
  | .version n => "while executing migration " ++ Text.decimal n ++ ": " ++ e.cause.message
  | .transaction => "while executing migrations: " ++ e.cause.message

def causes (e : MigrationError) : List String :=
  e.cause.message :: e.cause.causes

end MigrationError

inductive StoreError
  | notFound (text : String)
  | validation (text : String)
  | invalidStatus (text : String)
  | timeout (operation : String) (limit : Duration)
  | database (stage : String) (cause : DatabaseError)
  | storage (cause : DatabaseError)
  | migration (cause : MigrationError)
  | config (text : String)
  | other (text : String)
  deriving DecidableEq, Repr

namespace StoreError

def message : StoreError → String
  | notFound text => "log not found: " ++ text
  | validation text => "invalid input: " ++ text
  | invalidStatus text => "unknown task status: " ++ text
  | timeout operation limit => operation ++ " timed out after " ++ limit.describe
  | database stage cause => stage ++ " failed: " ++ cause.message
  | storage cause => "storage error: " ++ cause.message
  | migration cause => "migration failed: " ++ cause.message
  | config text => "configuration error: " ++ text
  | other text => text

/-- The whole batch may be sent again. -/
def isTransient : StoreError → Bool
  | timeout _ _ => true
  | database _ _ => true
  | storage _ => true
  | _ => false

/-- What lies behind the error, outermost first. -/
def causes : StoreError → List String
  | database _ cause => cause.message :: cause.causes
  | storage cause => cause.message :: cause.causes
  | migration cause => cause.message :: cause.causes
  | _ => []

end StoreError

/-- The status with the given name. -/
def Status.parse (text : String) : Except StoreError Status :=
  match Status.ofName? text with
  | some s => .ok s
  | none => .error (.invalidStatus text)

end AnchorQueue
