/-!
# The life of a job

A job waits, is held by one worker, and ends completed or failed. Completed and failed are final.
-/

namespace AnchorQueue

inductive Status
  | received
  | processing
  | completed
  | failed
  deriving DecidableEq, Repr

namespace Status

def all : List Status :=
  [received, processing, completed, failed]

def name : Status → String
  | received => "RECEIVED"
  | processing => "PROCESSING"
  | completed => "COMPLETED"
  | failed => "FAILED"

def ofName? (text : String) : Option Status :=
  all.find? fun s => s.name = text

def canMoveTo : Status → Status → Bool
  | received, processing => true
  | received, failed => true
  | processing, completed => true
  | processing, failed => true
  | processing, received => true
  | _, _ => false

theorem ofName?_name (s : Status) : ofName? s.name = some s := by
  cases s <;> decide

theorem name_of_ofName? {text : String} {s : Status} (h : ofName? text = some s) :
    s.name = text := by
  simpa using List.find?_some h

end Status

end AnchorQueue
