import AnchorQueue.Text.Decimal

/-!
# Operations and their reports
-/

namespace AnchorQueue

inductive Operation
  | insert
  | claim
  | complete
  | fail
  | retry
  deriving DecidableEq, Repr

def Operation.name : Operation → String
  | insert => "insert"
  | claim => "claim"
  | complete => "complete"
  | fail => "fail"
  | retry => "retry"

/-- How many jobs a batch asked for and how many it changed. -/
structure BatchReport where
  requested : Nat
  affected : Nat
  deriving DecidableEq, Repr

namespace BatchReport

def empty : BatchReport :=
  ⟨0, 0⟩

/-- Some jobs were unknown or had moved on. -/
def isPartial (r : BatchReport) : Bool :=
  r.affected < r.requested

def describe (r : BatchReport) : String :=
  "BatchReport \x7b requested: " ++ Text.decimal r.requested ++ ", affected: " ++
    Text.decimal r.affected ++ " \x7d"

end BatchReport

end AnchorQueue
