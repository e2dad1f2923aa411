import AnchorQueue.Proofs.Store.Shape

/-!
# The life of a stored job

A call leaves a stored job as it is or moves it along one edge of its life. Every edge belongs to
one operation, which must name the job. Completed and failed jobs have no edges out, so they stay as
they are in every later state.
-/

namespace AnchorQueue

open AnchorQueue.Time (Instant)

/-- The operation that moves jobs along an edge. -/
def Status.operation? : Status → Status → Option Operation
  | received, processing => some .claim
  | received, failed => some .claim
  | processing, completed => some .complete
  | processing, failed => some .fail
  | processing, received => some .retry
  | _, _ => none

theorem Status.canMoveTo_of_operation? {source target : Status} {o : Operation}
    (h : source.operation? target = some o) : source.canMoveTo target = true := by
  cases source <;> cases target <;> first | rfl | cases h

theorem Batch.Asks.operation?_eq {b : Batch} {now : Instant} {id : String} {j : Job} {a : Action}
    (h : b.Asks now id j a) : a.source.operation? a.target = some b.operation := by
  cases h <;> rfl

namespace Job

/-- How a batch may change the job under the id. -/
structure Advances (b : Batch) (id : String) (j k : Job) : Prop where
  same_or_edge : k = j ∨ j.status.canMoveTo k.status = true ∧ id ∈ b.requestIds ∧
    j.status.operation? k.status = some b.operation
  retries : if j.status = .processing ∧ k.status = .received then
    k.retries.toNat = j.retries.toNat + 1 else k.retries = j.retries
  ledger : j.status = .processing ∧ k.status = .completed ∨
    k.txHash = j.txHash ∧ k.blockHeight = j.blockHeight ∧ k.chainHash = j.chainHash

theorem advances_self (b : Batch) (id : String) (j : Job) : j.Advances b id j where
  same_or_edge := Or.inl rfl
  retries := by
    split
    · rename_i h
      exact absurd (h.1.symm.trans h.2) (by decide)
    · rfl
  ledger := Or.inr ⟨rfl, rfl, rfl⟩

theorem Sound.advances {b : Batch} {now : Instant} {id : String} {j k : Job} {a : Action}
    (h : j.Sound id) (hAsks : b.Asks now id j a) (hAct : j.act? a = some k) :
    j.Advances b id k := by
  obtain ⟨⟨hSource, _⟩, rfl⟩ := act?_eq_some_iff.mp hAct
  have hOperation : j.status.operation? a.target = some b.operation := hSource ▸ hAsks.operation?_eq
  refine ⟨Or.inr ⟨Status.canMoveTo_of_operation? hOperation, hAsks.mem_requestIds, hOperation⟩,
    ?_, ?_⟩
  · cases a with
    | requeue lastError =>
      rw [if_pos ⟨hSource, rfl⟩]
      exact toNat_succ_of_room (h.room hSource)
    | start | exhaust | complete | fail =>
      rw [if_neg (by simp [Action.target])]
      rfl
  · cases a with
    | complete a now => exact Or.inl ⟨hSource, rfl⟩
    | start | exhaust | fail | requeue => exact Or.inr ⟨rfl, rfl, rfl⟩

/-- There is no edge out of a completed or failed job. -/
theorem Advances.eq_of_final {b : Batch} {id : String} {j k : Job} (h : j.Advances b id k)
    (hFinal : j.status = .completed ∨ j.status = .failed) : k = j := by
  rcases h.same_or_edge with hSame | ⟨hEdge, _⟩
  · exact hSame
  · rcases hFinal with hStatus | hStatus <;> rw [hStatus] at hEdge <;> cases hEdge

end Job

namespace Store

theorem Sound.exists_advances {s : Store} (h : s.Sound) (c : Call) {id : String} {j : Job}
    (hj : s.get? id = some j) : ∃ k, (s.step c).get? id = some k ∧ j.Advances c.batch id k := by
  have hChanges := s.changes_after c.now c.batch id
  rw [hj] at hChanges
  generalize hAfter : (s.after c.now c.batch).get? id = stored at hChanges
  cases hChanges with
  | stay => exact ⟨j, hAfter, j.advances_self c.batch id⟩
  | @move _ k _ _ hAsks hAct => exact ⟨k, hAfter, (h id j hj).advances hAsks hAct⟩

theorem Sound.get?_run_of_final {s : Store} (h : s.Sound) {id : String} {j : Job}
    (hj : s.get? id = some j) (hFinal : j.status = .completed ∨ j.status = .failed)
    (calls : List Call) : (s.run calls).get? id = some j := by
  induction calls generalizing s with
  | nil => exact hj
  | cons c calls ih =>
    obtain ⟨k, hk, hAdvances⟩ := h.exists_advances c hj
    rw [hAdvances.eq_of_final hFinal] at hk
    exact ih (h.step c) hk

/-- In every state that calls lead to, a call leaves a stored job as it is or moves it along one
edge of its life, and completed and failed jobs stay as they are in every later state. -/
theorem transitions_safe (calls : List Call) {id : String} {j : Job}
    (hj : (empty.run calls).get? id = some j) :
    (∀ c, ∃ k, ((empty.run calls).step c).get? id = some k ∧ j.Advances c.batch id k) ∧
    (j.status = .completed ∨ j.status = .failed →
      ∀ later, (empty.run (calls ++ later)).get? id = some j) := by
  have hSound := sound_empty.run calls
  refine ⟨fun c => hSound.exists_advances c hj, fun hFinal later => ?_⟩
  rw [run_append]
  exact hSound.get?_run_of_final hj hFinal later

theorem transitions_safe_anchored :
    ∃ j : Job, j.status = .completed ∧ j.retries = 1 ∧
      (∀ c, ∃ k, ((empty.run anchored).step c).get? "a" = some k ∧ j.Advances c.batch "a" k) ∧
      ∀ later, (empty.run (anchored ++ later)).get? "a" = some j := by
  obtain ⟨j, hj, hStatus, hRetries⟩ : ∃ j ∈ (empty.run anchored).get? "a",
      j.status = .completed ∧ j.retries = 1 := by decide
  obtain ⟨hStep, hLater⟩ := transitions_safe anchored hj
  exact ⟨j, hStatus, hRetries, hStep, hLater (Or.inl hStatus)⟩

end Store

end AnchorQueue
