import AnchorQueue.Sql.Row
import AnchorQueue.Sql.Statement
import AnchorQueue.Telemetry.Signal

/-!
# Dialogues with the database

A dialogue is what the client does next, given the replies so far: send a statement, give signals,
or end. Run against a list of replies it leaves a transcript. Whatever ends inside an open
transaction is rolled back.
-/

namespace AnchorQueue.Sql

inductive Reply
  | done (affected : Nat)
  | rows (rows : List Row)
  | refused (text : String)
  | silent

/-- What a statement that succeeded gives. -/
structure Response where
  affected : Nat
  rows : List Row

/-- The place of a statement, which decides how its error is reported. -/
inductive Stage
  | named (name : String)
  | migration (step : MigrationStep)
  | plain
  deriving DecidableEq, Repr

def Stage.error : Stage → DatabaseError → StoreError
  | named name, e => .database name e
  | migration step, e => .migration ⟨step, e⟩
  | plain, e => .storage e

inductive Dialogue (α : Type)
  | done (a : α)
  | refuse (e : StoreError)
  | tell (signals : List Signal) (rest : Dialogue α)
  | ask (stage : Stage) (s : Statement) (next : Response → Dialogue α)

inductive Ending (α : Type)
  | finished (a : α)
  | refused (e : StoreError)
  | unanswered

structure Transcript (α : Type) where
  ending : Ending α
  sent : List Statement
  signals : List Signal

namespace Transcript

variable {α : Type}

def sending (s : Statement) (t : Transcript α) : Transcript α :=
  { t with sent := s :: t.sent }

def telling (signals : List Signal) (t : Transcript α) : Transcript α :=
  { t with signals := signals ++ t.signals }

end Transcript

namespace Dialogue

variable {α : Type}

/-- Whether a transaction is open after a statement that succeeded. -/
def opens (isOpen : Bool) : Statement → Bool
  | .beginTransaction => true
  | .commit => false
  | .rollback => false
  | _ => isOpen

/-- The end of a dialogue that did not finish. -/
def abandon (isOpen : Bool) (e : Ending α) : Transcript α :=
  ⟨e, if isOpen then [.rollback] else [], []⟩

/-- Where replies have run out, statements succeed with nothing to show. -/
def nextReply : List Reply → Reply
  | r :: _ => r
  | [] => .done 0

def run : Dialogue α → Bool → List Reply → Transcript α
  | done a, _, _ => ⟨.finished a, [], []⟩
  | refuse e, isOpen, _ => abandon isOpen (.refused e)
  | tell signals rest, isOpen, replies => (run rest isOpen replies).telling signals
  | ask stage s next, isOpen, replies =>
    match nextReply replies with
    | .done n => (run (next ⟨n, []⟩) (opens isOpen s) replies.tail).sending s
    | .rows rows => (run (next ⟨rows.length, rows⟩) (opens isOpen s) replies.tail).sending s
    | .refused text => (abandon isOpen (.refused (stage.error (.server text)))).sending s
    | .silent => (abandon isOpen .unanswered).sending s

/-- Goes on with a value, or ends with the error of the stage. -/
def decoding {β : Type} (stage : Stage) (e : Except DatabaseError β) (next : β → Dialogue α) :
    Dialogue α :=
  match e with
  | .ok b => next b
  | .error e => refuse (stage.error e)

end Dialogue

end AnchorQueue.Sql
