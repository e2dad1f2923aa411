import AnchorQueue.Job.Basic

/-!
# The plan of a claim

The locked jobs of a claim fall into two parts: those at the retry ceiling, which fail, and the
others, which the worker gets. Both parts keep the order of the locked jobs.
-/

namespace AnchorQueue

structure ClaimPlan where
  exhausted : List String
  claimable : List String
  deriving DecidableEq, Repr

namespace ClaimPlan

def isExhausted (ceiling : UInt32) (locked : String × UInt32) : Bool :=
  ceiling ≤ locked.2

def ofLocked (ceiling : UInt32) (locked : List (String × UInt32)) : ClaimPlan where
  exhausted := (locked.filter (isExhausted ceiling)).map Prod.fst
  claimable := (locked.filter fun l => !isExhausted ceiling l).map Prod.fst

def isEmpty (p : ClaimPlan) : Bool :=
  p.exhausted.isEmpty && p.claimable.isEmpty

theorem isEmpty_ofLocked_iff (ceiling : UInt32) (locked : List (String × UInt32)) :
    (ofLocked ceiling locked).isEmpty = true ↔ locked = [] := by
  cases locked with
  | nil => simp [ofLocked, isEmpty]
  | cons l ls => by_cases h : isExhausted ceiling l <;> simp [ofLocked, isEmpty, h]

end ClaimPlan

end AnchorQueue
