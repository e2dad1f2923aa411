import AnchorQueue.Proofs.Store.Claim

/-!
# One id in a batch

The jobs of a store do not see each other. What is stored under an id after an accepted batch
depends on the batch and on what was stored there before, and a rejected batch changes nothing. So
a batch leaves an id alone, brings it in, or applies one action to its job.
-/

namespace AnchorQueue

open AnchorQueue.Time (Instant)

namespace Batch

/-- What the batch asks of the job that is stored under the id. -/
def actionOn (now : Instant) (id : String) (j : Job) : Batch → Option Action
  | insert _ => none
  | claim ids ceiling => if id ∈ ids then some (.ofClaim now ceiling j) else none
  | complete anchorings =>
    (anchorings.find? fun a => a.requestId = id).map fun a => .complete a now
  | fail failures =>
    (failures.find? fun f => f.requestId = id).map fun f => .fail f.errorMessage now
  | retry ids lastError => if id ∈ ids then some (.requeue lastError) else none

def entering (now : Instant) (id : String) : Batch → Option Job
  | insert submissions => (submissions.find? fun x => x.requestId = id).map fun x => x.toJob now
  | _ => none

/-- What is stored under the id after the batch. -/
def stepOn (b : Batch) (now : Instant) (id : String) : Option Job → Option Job
  | none => b.entering now id
  | some j => some ((b.actionOn now id j).elim j j.act)

theorem fault?_of_size_eq_zero {b : Batch} (h : b.size = 0) : b.fault? = none := by
  cases b <;> cases List.length_eq_zero_iff.mp h <;> rfl

end Batch

namespace Store

theorem get?_insert (s : Store) (now : Instant) (requested : Nat) (submissions : List Submission)
    (id : String) : (s.insert now requested submissions).store.get? id =
      (Batch.insert submissions).stepOn now id (s.get? id) := by
  change (s.enroll now submissions).1.get? id = _
  rw [get?_enroll]
  cases s.get? id <;> rfl

theorem get?_claim (s : Store) (now : Instant) {ids : List String} (ceiling : UInt32)
    (h : ids.Nodup) (id : String) : (s.claim now ids ceiling).store.get? id =
      (Batch.claim ids ceiling).stepOn now id (s.get? id) := by
  rw [claim_store, get?_advance s (s.nodup_keys_claimActions now ceiling h)]
  cases hj : s.get? id with
  | none => rfl
  | some j =>
    rw [Option.map_some, s.lookup_claimActions now ids ceiling hj, Batch.stepOn, Batch.actionOn]
    by_cases hid : id ∈ ids
    · by_cases hStatus : j.status = .received
      · simp [hid, hStatus]
      · -- a job that does not wait refuses both actions of a claim
        have hAct : j.act? (.ofClaim now ceiling j) = none :=
          Job.act?_eq_none_of_status_ne (by rwa [Action.source_ofClaim])
        simp [hid, hStatus, Job.act_of_act?_eq_none hAct]
    · simp [hid]

theorem get?_report (s : Store) (operation : Operation) (target : Status) {α : Type}
    (key : α → String) (action : α → Action) {xs : List α} (h : (xs.map key).Nodup) (id : String) :
    (s.report operation target (xs.map fun x => (key x, action x))).store.get? id =
      (s.get? id).map fun j => ((xs.map fun x => (key x, action x)).lookup id).elim j j.act := by
  rw [← keys_map key action] at h
  exact s.get?_advance h id

theorem get?_effect (s : Store) (now : Instant) {b : Batch} (h : b.fault? = none) (k : String) :
    (s.effect now b.size b.normalize).store.get? k = b.stepOn now k (s.get? k) := by
  have hNodup := Batch.nodup_requestIds_normalize h
  cases b with
  | insert submissions =>
    rw [Batch.normalize, effect, get?_insert]
    cases s.get? k with
    | none => simp only [Batch.stepOn, Batch.entering, Batch.find?_distinct]
    | some j => rfl
  | claim ids ceiling =>
    rw [Batch.normalize, effect, s.get?_claim now ceiling (Batch.nodup_distinct_ids ids)]
    cases s.get? k with
    | none => rfl
    | some j => simp only [Batch.stepOn, Batch.actionOn, Batch.mem_distinct_ids]
  | complete anchorings =>
    rw [Batch.normalize, effect, complete, get?_report s _ _ _ _ hNodup, lookup_map]
    cases s.get? k <;> rfl
  | fail failures =>
    rw [Batch.normalize, effect, fail, get?_report s _ _ _ _ hNodup, lookup_map]
    cases s.get? k <;> rfl
  | retry ids lastError =>
    rw [Batch.normalize, effect, retry, get?_report s _ _ (fun x => x) _
      (Batch.nodup_keys_distinct id ids), lookup_map_const]
    cases s.get? k with
    | none => rfl
    | some j => simp only [Batch.stepOn, Batch.actionOn, Batch.mem_distinct_ids, Option.map_some]

theorem perform_of_size_eq_zero (s : Store) (now : Instant) {b : Batch} (h : b.size = 0) :
    s.perform now b = ⟨.ok b.emptyResult, s, []⟩ := by
  rw [perform, if_pos h]

theorem perform_of_fault (s : Store) (now : Instant) {b : Batch} {f : BatchFault}
    (h : b.fault? = some f) : s.perform now b = ⟨.error f, s, []⟩ := by
  have hSize : b.size ≠ 0 := by
    intro hZero
    rw [Batch.fault?_of_size_eq_zero hZero] at h
    cases h
  rw [perform, if_neg hSize, h]

theorem perform_of_accepted (s : Store) (now : Instant) {b : Batch} (hSize : b.size ≠ 0)
    (h : b.fault? = none) : s.perform now b = (s.effect now b.size b.normalize).map .ok := by
  rw [perform, if_neg hSize, h]

theorem after_of_fault (s : Store) (now : Instant) {b : Batch} {f : BatchFault}
    (h : b.fault? = some f) : s.after now b = s := by
  rw [after, s.perform_of_fault now h]

/-- An empty batch stores what its effect would store, so it needs no case of its own. -/
theorem after_of_accepted (s : Store) (now : Instant) {b : Batch} (h : b.fault? = none) :
    s.after now b = (s.effect now b.size b.normalize).store := by
  rw [after]
  by_cases hSize : b.size = 0
  · rw [s.perform_of_size_eq_zero now hSize]
    cases b <;> cases List.length_eq_zero_iff.mp hSize <;> rfl
  · rw [s.perform_of_accepted now hSize h]
    rfl

theorem get?_after (s : Store) (now : Instant) {b : Batch} (h : b.fault? = none) (id : String) :
    (s.after now b).get? id = b.stepOn now id (s.get? id) := by
  rw [s.after_of_accepted now h]
  exact s.get?_effect now h id

end Store

end AnchorQueue
