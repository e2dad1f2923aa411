import AnchorQueue.Job.Basic
import AnchorQueue.Text.Decimal

/-!
# Actions on a job

Each action leads from one status to another. It applies only to a job in its first status that
passes its guard, and otherwise it is refused; so a job whose status has changed meanwhile is left
as it is.
-/

namespace AnchorQueue

open AnchorQueue.Time (Instant)

/-- The error text of a job that ran out of retries. -/
def exhaustedMessage (ceiling : UInt32) : String :=
  "reached maximum retry count (" ++ Text.decimal ceiling.toNat ++ ")"

inductive Action
  | start (now : Instant)
  | exhaust (ceiling : UInt32) (now : Instant)
  | complete (anchoring : Anchoring) (now : Instant)
  | fail (message : String) (now : Instant)
  | requeue (lastError : String)
  deriving DecidableEq, Repr

namespace Action

def source : Action → Status
  | start _ => .received
  | exhaust _ _ => .received
  | complete _ _ => .processing
  | fail _ _ => .processing
  | requeue _ => .processing

def target : Action → Status
  | start _ => .processing
  | exhaust _ _ => .failed
  | complete _ _ => .completed
  | fail _ _ => .failed
  | requeue _ => .received

/-- Only a job with no retries left can be exhausted. -/
def admits : Action → Job → Bool
  | exhaust ceiling _, j => ceiling ≤ j.retries
  | _, _ => true

/-- The fields an action writes besides the status. -/
def revise : Action → Job → Job
  | start now, j => { j with startedAt := some now }
  | exhaust ceiling now, j =>
    { j with errorMessage := some (exhaustedMessage ceiling), finishedAt := some now }
  | complete a now, j =>
    { j with
      txHash := some a.txHash
      chainHash := some a.chainHash
      blockHeight := some a.blockHeight
      errorMessage := none
      finishedAt := some now }
  | fail message now, j => { j with errorMessage := some message, finishedAt := some now }
  | requeue lastError, j =>
    { j with retries := j.retries + 1, errorMessage := some lastError, startedAt := none }

theorem source_canMoveTo_target (a : Action) : a.source.canMoveTo a.target = true := by
  cases a <;> rfl

end Action

namespace Job

/-- Moves a job that is in the first status, if it may go from there to the second one. -/
def advance (j : Job) (source target : Status) : Bool × Job :=
  if j.status = source && source.canMoveTo target then (true, { j with status := target })
  else (false, j)

/-- Whether the action applies, and the job as it is then. -/
def attempt (j : Job) (a : Action) : Bool × Job :=
  if a.admits j then
    match j.advance a.source a.target with
    | (true, k) => (true, a.revise k)
    | (false, k) => (false, k)
  else (false, j)

def act? (j : Job) (a : Action) : Option Job :=
  match j.attempt a with
  | (true, k) => some k
  | (false, _) => none

/-- The job after an action that may not apply. -/
def act (j : Job) (a : Action) : Job :=
  (j.attempt a).2

theorem attempt_of_admitted {j : Job} {a : Action} (hStatus : j.status = a.source)
    (hAdmits : a.admits j = true) :
    j.attempt a = (true, { a.revise j with status := a.target }) := by
  have hAdvance : j.advance a.source a.target = (true, { j with status := a.target }) := by
    simp [advance, hStatus, a.source_canMoveTo_target]
  rw [attempt, if_pos hAdmits, hAdvance]
  cases a <;> rfl

theorem attempt_of_not_admitted {j : Job} {a : Action}
    (h : ¬(j.status = a.source ∧ a.admits j = true)) : j.attempt a = (false, j) := by
  rw [attempt]
  split
  · have hAdvance : j.advance a.source a.target = (false, j) := by simp_all [advance]
    rw [hAdvance]
  · rfl

theorem act?_eq_some_iff {j k : Job} {a : Action} :
    j.act? a = some k ↔
      (j.status = a.source ∧ a.admits j = true) ∧ { a.revise j with status := a.target } = k := by
  by_cases h : j.status = a.source ∧ a.admits j = true
  · simp [act?, attempt_of_admitted h.1 h.2, h]
  · simp [act?, attempt_of_not_admitted h, h]

theorem act?_eq_none_iff {j : Job} {a : Action} :
    j.act? a = none ↔ ¬(j.status = a.source ∧ a.admits j = true) := by
  by_cases h : j.status = a.source ∧ a.admits j = true
  · simp [act?, attempt_of_admitted h.1 h.2, h]
  · simp [act?, attempt_of_not_admitted h, h]

theorem attempt_of_act?_eq_some {j k : Job} {a : Action} (h : j.act? a = some k) :
    j.attempt a = (true, k) := by
  obtain ⟨⟨hStatus, hAdmits⟩, rfl⟩ := act?_eq_some_iff.mp h
  exact attempt_of_admitted hStatus hAdmits

theorem attempt_of_act?_eq_none {j : Job} {a : Action} (h : j.act? a = none) :
    j.attempt a = (false, j) :=
  attempt_of_not_admitted (act?_eq_none_iff.mp h)

end Job

end AnchorQueue
