import AnchorQueue.Proofs.Store.Lifecycle

/-!
# The first submission counts

Of all accepted submissions under one id the store keeps the first, with the clock reading of the
call that brought it. Whatever is called later, the job keeps what it has from its submission, and
its progress never goes back.
-/

namespace AnchorQueue

open AnchorQueue.Time (Instant)

/-- The accepted submissions of a call, each with the clock reading of the call. -/
def Call.submitted (c : Call) : List (Instant × Submission) :=
  match c.batch with
  | .insert submissions =>
    if c.batch.fault? = none then submissions.map fun x => (c.now, x) else []
  | _ => []

theorem Call.submitted_of_fault {c : Call} {f : BatchFault} (h : c.batch.fault? = some f) :
    c.submitted = [] := by
  rw [submitted]
  split
  · rw [if_neg (by simp [h])]
  · rfl

def submitted (calls : List Call) : List (Instant × Submission) :=
  calls.flatMap Call.submitted

def firstUnder (id : String) (entries : List (Instant × Submission)) :
    Option (Instant × Submission) :=
  entries.find? fun w => w.2.requestId = id

namespace Job

/-- What a job has from its submission and from the clock of that call. -/
structure Origin where
  logHash : String
  sourceOrg : String
  receivedAt : Instant
  storedAt : Instant

def origin (j : Job) : Origin :=
  ⟨j.logHash, j.sourceOrg, j.receivedAt, j.storedAt⟩

theorem origin_act (j : Job) (a : Action) : (j.act a).origin = j.origin := by
  cases hAct : j.act? a with
  | none => rw [act_of_act?_eq_none hAct]
  | some k =>
    rw [act_of_act?_eq_some hAct, ← (act?_eq_some_iff.mp hAct).2]
    cases a <;> rfl

end Job

def originOf (w : Instant × Submission) : Job.Origin :=
  (w.2.toJob w.1).origin

namespace Status

/-- How far a status is from the start of an attempt. -/
def rank : Status → Nat
  | received => 0
  | processing => 1
  | completed => 2
  | failed => 2

end Status

namespace Job

/-- An attempt has three ranks, so a retry is further on than the attempt it ends. -/
def progress (j : Job) : Nat :=
  3 * j.retries.toNat + j.status.rank

theorem Advances.progress_le {b : Batch} {id : String} {j k : Job} (h : j.Advances b id k) :
    j.progress ≤ k.progress := by
  rcases h.same_or_edge with rfl | ⟨hEdge, _⟩
  · exact Nat.le_refl _
  · have hRetries := h.retries
    simp only [progress]
    split at hRetries
    · rename_i hBack
      rw [hBack.1, hBack.2, hRetries]
      simp only [Status.rank]
      omega
    · rename_i hOn
      rw [hRetries]
      -- Of the edges only the one back to the waiting jobs goes down in rank.
      have hRank : j.status.rank ≤ k.status.rank := by
        generalize j.status = source at hEdge hOn
        generalize k.status = target at hEdge hOn
        cases source <;> cases target <;> simp [Status.canMoveTo, Status.rank] at hEdge hOn ⊢
      omega

end Job

namespace Store

theorem find?_submitted_insert {now : Instant} {submissions : List Submission}
    (h : (Batch.insert submissions).fault? = none) (id : String) :
    firstUnder id (Call.submitted ⟨now, .insert submissions⟩) =
      (submissions.find? fun x => x.requestId = id).map fun x => (now, x) := by
  simp only [firstUnder, Call.submitted, h, if_true, List.find?_map]
  rfl

theorem origin_step (s : Store) (c : Call) (id : String) :
    ((s.step c).get? id).map Job.origin =
      ((s.get? id).map Job.origin).or ((firstUnder id c.submitted).map originOf) := by
  obtain ⟨now, b⟩ := c
  cases hFault : b.fault? with
  | some f =>
    rw [step, s.after_of_fault now hFault, Call.submitted_of_fault hFault]
    exact (Option.or_none).symm
  | none =>
    rw [step, s.get?_after now hFault]
    cases hj : s.get? id with
    | some j =>
      rw [Batch.stepOn, Option.map_some, Option.map_some, Option.some_or]
      cases b.actionOn now id j with
      | none => rfl
      | some a => exact congrArg some (j.origin_act a)
    | none =>
      rw [Batch.stepOn, Option.map_none, Option.none_or]
      cases b with
      | insert submissions =>
        rw [find?_submitted_insert hFault, Batch.entering, Option.map_map, Option.map_map]
        rfl
      | claim | complete | fail | retry => rfl

theorem origin_run (s : Store) (calls : List Call) (id : String) :
    ((s.run calls).get? id).map Job.origin =
      ((s.get? id).map Job.origin).or ((firstUnder id (submitted calls)).map originOf) := by
  induction calls generalizing s with
  | nil => exact (Option.or_none).symm
  | cons c calls ih =>
    rw [run_cons, ih, s.origin_step, Option.or_assoc, ← Option.map_or]
    simp only [submitted, firstUnder, List.flatMap_cons, List.find?_append]

theorem get?_step_insert (s : Store) (now : Instant) (submissions : List Submission) {id : String}
    {j : Job} (hj : s.get? id = some j) : (s.step ⟨now, .insert submissions⟩).get? id = some j := by
  have hChanges := s.changes_after now (.insert submissions) id
  rw [hj] at hChanges
  generalize hAfter : (s.after now (.insert submissions)).get? id = stored at hChanges
  cases hChanges with
  | stay => exact hAfter
  | move _ hAsks _ => cases hAsks

theorem Sound.exists_progress_run {s : Store} (h : s.Sound) {id : String} {j : Job}
    (hj : s.get? id = some j) (calls : List Call) :
    ∃ k, (s.run calls).get? id = some k ∧ k.origin = j.origin ∧ j.progress ≤ k.progress := by
  induction calls generalizing s j with
  | nil => exact ⟨j, hj, rfl, Nat.le_refl _⟩
  | cons c calls ih =>
    obtain ⟨m, hm, hAdvances⟩ := h.exists_advances c hj
    obtain ⟨k, hk, hOrigin, hProgress⟩ := ih (h.step c) hm
    have hSame := s.origin_step c id
    rw [hj, hm, Option.map_some, Option.map_some, Option.some_or] at hSame
    exact ⟨k, hk, hOrigin.trans (Option.some.inj hSame),
      Nat.le_trans hAdvances.progress_le hProgress⟩

/-- After every run a job is stored under exactly the ids of the accepted submissions, and it has
its content, its owner and its times from the first of them. Whatever is called later leaves these
fields as they are and does not take progress back; an insert leaves the whole job as it is. -/
theorem first_submission_counts (calls : List Call) (id : String) :
    ((∃ j, (empty.run calls).get? id = some j) ↔ ∃ w ∈ submitted calls, w.2.requestId = id) ∧
    ∀ j, (empty.run calls).get? id = some j →
      (∃ w, (submitted calls).find? (fun w => w.2.requestId = id) = some w ∧
        j.requestId = id ∧ j.logHash = w.2.logHash ∧ j.sourceOrg = w.2.sourceOrg ∧
        j.receivedAt = w.2.receivedAt ∧ j.storedAt = w.1) ∧
      (∀ now submissions,
        ((empty.run calls).step ⟨now, .insert submissions⟩).get? id = some j) ∧
      ∀ later, ∃ k, (empty.run (calls ++ later)).get? id = some k ∧
        k.requestId = id ∧ k.logHash = j.logHash ∧ k.sourceOrg = j.sourceOrg ∧
        k.receivedAt = j.receivedAt ∧ k.storedAt = j.storedAt ∧ j.progress ≤ k.progress := by
  have hRun := empty.origin_run calls id
  rw [get?_empty, Option.map_none, Option.none_or] at hRun
  have hSound := sound_empty.run calls
  refine ⟨?_, fun j hj => ⟨?_, fun now submissions => ?_, fun later => ?_⟩⟩
  · have hSome := congrArg Option.isSome hRun
    rw [Option.isSome_map, Option.isSome_map] at hSome
    rw [← Option.isSome_iff_exists, hSome, firstUnder, List.find?_isSome]
    simp
  · rw [hj, Option.map_some] at hRun
    obtain ⟨w, hw, hOrigin⟩ := Option.map_eq_some_iff.mp hRun.symm
    obtain ⟨hHash, hOrg, hReceived, hStored⟩ := Job.Origin.mk.inj hOrigin
    exact ⟨w, hw, (hSound id j hj).key, hHash.symm, hOrg.symm, hReceived.symm, hStored.symm⟩
  · exact (empty.run calls).get?_step_insert now submissions hj
  · obtain ⟨k, hk, hOrigin, hProgress⟩ := hSound.exists_progress_run hj later
    obtain ⟨hHash, hOrg, hReceived, hStored⟩ := Job.Origin.mk.inj hOrigin
    rw [run_append]
    exact ⟨k, hk, (hSound.run later id k hk).key, hHash, hOrg, hReceived, hStored, hProgress⟩

theorem first_submission_counts_anchored :
    ∃ j : Job, (empty.run anchored).get? "a" = some j ∧ j.status = .completed ∧
      j.logHash = "h" ∧ j.sourceOrg = "org" ∧ j.storedAt = newYear ∧
      (∀ now submissions,
        ((empty.run anchored).step ⟨now, .insert submissions⟩).get? "a" = some j) ∧
      ∀ later, ∃ k, (empty.run (anchored ++ later)).get? "a" = some k ∧ 5 ≤ k.progress := by
  obtain ⟨j, hj, hStatus, hProgress⟩ : ∃ j ∈ (empty.run anchored).get? "a",
      j.status = .completed ∧ j.progress = 5 := by decide
  have hFirst : (submitted anchored).find? (fun w => w.2.requestId = "a") =
      some (newYear, ⟨"a", "h", "org", newYear⟩) := by decide
  obtain ⟨⟨w, hw, _, hHash, hOrg, _, hStored⟩, hInsert, hLater⟩ :=
    (first_submission_counts anchored "a").2 j hj
  cases hFirst.symm.trans hw
  refine ⟨j, hj, hStatus, hHash, hOrg, hStored, hInsert, fun later => ?_⟩
  obtain ⟨k, hk, _, _, _, _, _, hLe⟩ := hLater later
  exact ⟨k, hk, hProgress ▸ hLe⟩

end Store

end AnchorQueue
