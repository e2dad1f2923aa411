import AnchorQueue.Proofs.Store.Shape

/-!
# Counting attempts

The retries and the start of a stored job tell how often the job has been handed out. The count
goes up with every hand-out and with nothing else: a retry turns the attempt that is under way into
one retry more. A claim hands out only below its ceiling, so the ceilings bound the attempts.
-/

namespace AnchorQueue

open AnchorQueue.Time (Instant)

namespace Job

/-- How often the job has been handed out, as its fields tell it. -/
def attempts (j : Job) : Nat :=
  j.retries.toNat + if j.startedAt.isSome then 1 else 0

/-- One case per action: only the start of a job adds an attempt. -/
theorem Sound.attempts_act {id : String} {j k : Job} {a : Action} (h : j.Sound id)
    (hAct : j.act? a = some k) : k.attempts =
      j.attempts + if j.status = .received ∧ k.status = .processing then 1 else 0 := by
  obtain ⟨⟨hSource, _⟩, rfl⟩ := act?_eq_some_iff.mp hAct
  have hShaped := h.shaped
  cases a with
  | start now =>
    simp only [Shaped, hSource, Action.source] at hShaped
    rw [if_pos ⟨hSource, rfl⟩]
    simp [attempts, Action.revise, hShaped.1]
  | requeue lastError =>
    have hSucc := toNat_succ_of_room (h.room hSource)
    simp only [Shaped, hSource, Action.source] at hShaped
    obtain ⟨now, hStarted⟩ := Option.ne_none_iff_exists'.mp hShaped.1
    rw [if_neg (by simp [Action.target])]
    simp [attempts, Action.revise, hStarted, hSucc]
  | exhaust | complete | fail =>
    rw [if_neg (by simp [Action.target])]
    rfl

end Job

namespace Store

/-- The attempts of what is stored under the id. -/
def attempts (s : Store) (id : String) : Nat :=
  (s.get? id).elim 0 Job.attempts

/-- How many calls of a run hand out the job with the id. -/
def handouts (id : String) : Store → List Call → Nat
  | _, [] => 0
  | s, c :: calls => (if id ∈ s.handedOut c then 1 else 0) + handouts id (s.step c) calls

/-- Handing out is the move from waiting to being in process. -/
theorem mem_handedOut_iff (s : Store) (c : Call) {id : String} :
    id ∈ s.handedOut c ↔ (∃ j ∈ s.get? id, j.status = .received) ∧
      ∃ k ∈ (s.step c).get? id, k.status = .processing := by
  obtain ⟨now, b⟩ := c
  constructor
  · intro h
    obtain ⟨hAccepted, ids, ceiling, j, rfl, hid, hj, hStatus, hBelow⟩ :=
      s.start_of_mem_handedOut h
    have hAct : j.act? (.start now) =
        some { j with status := .processing, startedAt := some now } :=
      Job.act?_eq_some_iff.mpr ⟨⟨hStatus, rfl⟩, rfl⟩
    refine ⟨⟨j, hj, hStatus⟩, { j with status := .processing, startedAt := some now }, ?_, rfl⟩
    rw [step, s.get?_after now hAccepted, hj, Batch.stepOn, Batch.actionOn, if_pos hid,
      Option.elim_some, Action.ofClaim_of_lt hBelow, Job.act_of_act?_eq_some hAct]
    exact Option.mem_some_self _
  · rintro ⟨⟨j, hj, hReceived⟩, k, hk, hProcessing⟩
    have hChanges := s.changes_after now b id
    rw [hj] at hChanges
    rw [step] at hk
    rw [hk] at hChanges
    cases hChanges with
    | stay =>
      rw [hReceived] at hProcessing
      cases hProcessing
    | @move _ _ a hAccepted hAsks hAct =>
      obtain ⟨⟨hSource, _⟩, rfl⟩ := Job.act?_eq_some_iff.mp hAct
      cases hAsks with
      | start hid hBelow =>
        exact (s.mem_handedOut_claim_iff now hAccepted).mpr ⟨hid, j, hj, hReceived, hBelow⟩
      | exhaust | complete | fail | requeue => cases hProcessing

theorem Sound.attempts_step {s : Store} (h : s.Sound) (c : Call) (id : String) :
    (s.step c).attempts id = s.attempts id + if id ∈ s.handedOut c then 1 else 0 := by
  have hChanges := s.changes_after c.now c.batch id
  have hSound := h id
  -- Hand-outs become a fact about what is stored before and after, as the cases below need it.
  simp only [mem_handedOut_iff, attempts, Store.step]
  generalize s.get? id = before at hChanges hSound
  generalize (s.after c.now c.batch).get? id = stored at hChanges
  cases hChanges with
  | stay =>
    rw [if_neg, Nat.add_zero]
    rintro ⟨⟨j, hj, hReceived⟩, k, hk, hProcessing⟩
    cases Option.mem_unique hj hk
    rw [hReceived] at hProcessing
    cases hProcessing
  | enter =>
    rw [if_neg]
    · rfl
    · rintro ⟨⟨j, hj, _⟩, _⟩
      cases hj
  | move _ _ hAct => simpa using (hSound _ rfl).attempts_act hAct

/-- The attempts that the fields of a job tell are the hand-outs of the run. -/
theorem Sound.attempts_run {s : Store} (h : s.Sound) (calls : List Call) (id : String) :
    (s.run calls).attempts id = s.attempts id + handouts id s calls := by
  induction calls generalizing s with
  | nil => rfl
  | cons c calls ih =>
    rw [run_cons, ih (h.step c), h.attempts_step c id, handouts, Nat.add_assoc]

theorem Sound.attempts_step_le {s : Store} (h : s.Sound) {c : Call} {id : String} {bound : Nat}
    (hBound : ∀ ids ceiling, c.batch = .claim ids ceiling → ceiling.toNat ≤ bound)
    (hs : s.attempts id ≤ bound) : (s.step c).attempts id ≤ bound := by
  rw [h.attempts_step c id]
  split
  · rename_i hOut
    obtain ⟨_, ids, ceiling, j, hBatch, _, hj, hStatus, hBelow⟩ := s.start_of_mem_handedOut hOut
    have hShaped := (h id j hj).shaped
    simp only [Job.Shaped, hStatus] at hShaped
    -- The job was waiting, so its retries are all of its attempts, and they are below the ceiling.
    have hRetries : s.attempts id = j.retries.toNat := by
      rw [attempts, hj, Option.elim_some, Job.attempts, hShaped.1]
      rfl
    have hLast := UInt32.lt_iff_toNat_lt.mp hBelow
    have hCeiling := hBound ids ceiling hBatch
    omega
  · exact hs

theorem Sound.attempts_run_le {s : Store} (h : s.Sound) {calls : List Call} {id : String}
    {bound : Nat} (hBound : ∀ c ∈ calls, ∀ ids ceiling, c.batch = .claim ids ceiling →
      ceiling.toNat ≤ bound) (hs : s.attempts id ≤ bound) : (s.run calls).attempts id ≤ bound := by
  induction calls generalizing s with
  | nil => exact hs
  | cons c calls ih =>
    apply ih (h.step c) fun d hd => hBound d (List.mem_cons_of_mem c hd)
    exact h.attempts_step_le (hBound c List.mem_cons_self) hs

/-- Of every stored job the retries and the start tell how often the run handed it out. The
greatest ceiling of the claims bounds both this number and the retries, and a job in process can be
put back, which adds exactly one to its retries. -/
theorem handouts_bounded (calls : List Call) {id : String} {j : Job}
    (hj : (empty.run calls).get? id = some j) :
    handouts id empty calls = j.retries.toNat + (if j.startedAt.isSome then 1 else 0) ∧
    (∀ bound : Nat, (∀ c ∈ calls, ∀ ids ceiling, c.batch = .claim ids ceiling →
      ceiling.toNat ≤ bound) → handouts id empty calls ≤ bound ∧ j.retries.toNat ≤ bound) ∧
    (j.status = .processing → j.retries.toNat < 2 ^ 32 - 1 ∧
      ∀ lastError, ∃ k, j.act? (.requeue lastError) = some k ∧
        k.retries.toNat = j.retries.toNat + 1) := by
  have hSound := sound_empty.run calls id j hj
  have hAttempts : (empty.run calls).attempts id = j.attempts := by
    rw [attempts, hj, Option.elim_some]
  have hRun := sound_empty.attempts_run calls id
  have hEmpty : empty.attempts id = 0 := rfl
  refine ⟨?_, ?_, ?_⟩
  · rw [← Job.attempts]
    omega
  · intro bound hBound
    have hLe := sound_empty.attempts_run_le hBound (hEmpty ▸ Nat.zero_le bound)
    have hRetries : j.retries.toNat ≤ j.attempts := Nat.le_add_right _ _
    omega
  · intro hStatus
    have hRoom := hSound.room hStatus
    refine ⟨by omega, fun lastError => ?_⟩
    exact ⟨_, Job.act?_eq_some_iff.mpr ⟨⟨hStatus, rfl⟩, rfl⟩, Job.toNat_succ_of_room hRoom⟩

theorem handouts_bounded_twoAttempts :
    handouts "a" empty twoAttempts = 2 ∧ handouts "a" empty twoAttempts ≤ 3 ∧
      ∃ j : Job, j.retries = 1 ∧ j.retries.toNat < 2 ^ 32 - 1 ∧
        ∃ k, j.act? (.requeue "timeout") = some k ∧ k.retries.toNat = 2 := by
  obtain ⟨j, hj, hStatus, hStarted, hRetries⟩ : ∃ j ∈ (empty.run twoAttempts).get? "a",
      j.status = .processing ∧ j.startedAt = some newYear ∧ j.retries = 1 := by decide
  obtain ⟨hCount, hLe, hRoom⟩ := handouts_bounded twoAttempts hj
  have hBound : ∀ c ∈ twoAttempts, ∀ ids ceiling, c.batch = .claim ids ceiling →
      ceiling.toNat ≤ 3 := by
    intro c hc ids ceiling hBatch
    simp only [twoAttempts, List.mem_cons, List.not_mem_nil, or_false] at hc
    rcases hc with rfl | rfl | rfl | rfl <;> cases hBatch <;> decide
  obtain ⟨k, hAct, hSucc⟩ := (hRoom hStatus).2 "timeout"
  refine ⟨?_, (hLe 3 hBound).1, j, hRetries, (hRoom hStatus).1, k, hAct, ?_⟩
  · rw [hCount, hRetries, hStarted]
    rfl
  · rw [hSucc, hRetries]
    rfl

end Store

end AnchorQueue
