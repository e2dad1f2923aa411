import AnchorQueue.Proofs.Store.Shape
import Mathlib.Data.List.Induction

/-!
# The times of a job

A job is stored, started and finished in this order, as long as the clock is never set back. The
times are those that calls read from the clock. A retry takes the start of a job away and a later
claim writes a new one, so the order also holds for a job that has gone round several times.
-/

namespace AnchorQueue

open AnchorQueue.Time (Instant)

namespace Time.Instant

theorem le_refl (t : Instant) : t ≤ t :=
  (le_def t t).mpr (Int.le_refl t.rank)

theorem le_trans {r s t : Instant} (hrs : r ≤ s) (hst : s ≤ t) : r ≤ t :=
  (le_def r t).mpr (Int.le_trans ((le_def r s).mp hrs) ((le_def s t).mp hst))

end Time.Instant

/-- Whether the call asks for the time. A call without items and a refused one end before they do,
and a retry writes no time. -/
def Call.readsClock (c : Call) : Bool :=
  c.batch.size ≠ 0 && c.batch.fault?.isNone && c.batch.operation ≠ .retry

/-- What the calls of a run read from the clock. -/
def clockReadings (calls : List Call) : List Instant :=
  (calls.filter Call.readsClock).map Call.now

/-- No reading is earlier than a reading before it. -/
def ClockNeverFalls (calls : List Call) : Prop :=
  (clockReadings calls).Pairwise (· ≤ ·)

instance (calls : List Call) : Decidable (ClockNeverFalls calls) :=
  inferInstanceAs (Decidable (List.Pairwise _ _))

theorem clockReadings_append (xs ys : List Call) :
    clockReadings (xs ++ ys) = clockReadings xs ++ clockReadings ys := by
  rw [clockReadings, List.filter_append, List.map_append]
  rfl

theorem Batch.length_requestIds (b : Batch) : b.requestIds.length = b.size := by
  cases b with
  | insert submissions => exact List.length_map _
  | complete anchorings => exact List.length_map _
  | fail failures => exact List.length_map _
  | claim | retry => rfl

/-- Of the accepted calls that name an id, only a retry does without the clock. -/
theorem Call.readsClock_of_accepted {c : Call} {id : String} (hAccepted : c.batch.fault? = none)
    (hid : id ∈ c.batch.requestIds) (hRetry : c.batch.operation ≠ .retry) :
    c.readsClock = true := by
  have hSize : c.batch.size ≠ 0 := by
    rw [← Batch.length_requestIds]
    exact Nat.ne_of_gt (List.length_pos_of_mem hid)
  simp [readsClock, hSize, hAccepted, hRetry]

namespace Job

/-- The times of the job are in order, and none is later than `latest`. -/
structure Timely (latest : Instant) (j : Job) : Prop where
  stored_le_started : ∀ t ∈ j.startedAt, j.storedAt ≤ t
  stored_le_finished : ∀ t ∈ j.finishedAt, j.storedAt ≤ t
  started_le_finished : ∀ s ∈ j.startedAt, ∀ t ∈ j.finishedAt, s ≤ t
  stored_le : j.storedAt ≤ latest
  started_le : ∀ t ∈ j.startedAt, t ≤ latest
  finished_le : ∀ t ∈ j.finishedAt, t ≤ latest

variable {latest bound now : Instant} {j k : Job}

theorem Timely.mono (h : j.Timely latest) (hLe : latest ≤ bound) : j.Timely bound where
  stored_le_started := h.stored_le_started
  stored_le_finished := h.stored_le_finished
  started_le_finished := h.started_le_finished
  stored_le := Instant.le_trans h.stored_le hLe
  started_le t ht := Instant.le_trans (h.started_le t ht) hLe
  finished_le t ht := Instant.le_trans (h.finished_le t ht) hLe

theorem timely_toJob (x : Submission) (now : Instant) : (x.toJob now).Timely now where
  stored_le_started _ ht := by cases ht
  stored_le_finished _ ht := by cases ht
  started_le_finished _ hs := by cases hs
  stored_le := Instant.le_refl now
  started_le _ ht := by cases ht
  finished_le _ ht := by cases ht

/-- A start of a job without an end. -/
theorem Timely.start (h : j.Timely latest) (hFinished : j.finishedAt = none)
    (hNow : latest ≤ now) :
    Timely now { j with status := .processing, startedAt := some now } := by
  have hStored : j.storedAt ≤ now := Instant.le_trans h.stored_le hNow
  constructor
  · rintro t ⟨⟩
    exact hStored
  · exact h.stored_le_finished
  · rintro s ⟨⟩ t ht
    rw [hFinished] at ht
    cases ht
  · exact hStored
  · rintro t ⟨⟩
    exact Instant.le_refl now
  · exact fun t ht => Instant.le_trans (h.finished_le t ht) hNow

/-- An end, which comes after everything so far; the other times stay. -/
theorem Timely.finish (h : j.Timely latest) (hNow : latest ≤ now)
    (hStored : k.storedAt = j.storedAt) (hStarted : k.startedAt = j.startedAt)
    (hFinished : k.finishedAt = some now) : k.Timely now := by
  have hBefore := h.mono hNow
  constructor
  · rw [hStarted, hStored]
    exact h.stored_le_started
  · rw [hFinished, hStored]
    rintro t ⟨⟩
    exact hBefore.stored_le
  · rw [hFinished, hStarted]
    rintro s hs t ⟨⟩
    exact hBefore.started_le s hs
  · rw [hStored]
    exact hBefore.stored_le
  · rw [hStarted]
    exact hBefore.started_le
  · rw [hFinished]
    rintro t ⟨⟩
    exact Instant.le_refl now

/-- Without its start a job keeps the order of the other times. -/
theorem Timely.withoutStart (h : j.Timely latest) (hStored : k.storedAt = j.storedAt)
    (hStarted : k.startedAt = none) (hFinished : k.finishedAt = j.finishedAt) :
    k.Timely latest := by
  constructor
  · rw [hStarted]
    rintro t ⟨⟩
  · rw [hFinished, hStored]
    exact h.stored_le_finished
  · rw [hStarted]
    rintro s ⟨⟩
  · rw [hStored]
    exact h.stored_le
  · rw [hStarted]
    rintro t ⟨⟩
  · rw [hFinished]
    exact h.finished_le

theorem Sound.finishedAt_eq_none {id : String} (h : j.Sound id) (hStatus : j.status = .received) :
    j.finishedAt = none := by
  have hShaped := h.shaped
  simp only [Shaped, hStatus] at hShaped
  exact hShaped.2.1

/-- One case per action: a retry needs no time, the other actions write the present one. -/
theorem Timely.move {b : Batch} {id : String} {a : Action} (h : j.Timely latest)
    (hSound : j.Sound id) (hAsks : b.Asks now id j a) (hAct : j.act? a = some k)
    (hLatest : latest ≤ bound)
    (hNow : b.operation ≠ .retry → latest ≤ now ∧ now ≤ bound) : k.Timely bound := by
  obtain ⟨⟨hSource, _⟩, rfl⟩ := act?_eq_some_iff.mp hAct
  cases hAsks with
  | start =>
    obtain ⟨hBefore, hAfter⟩ := hNow (by simp [Batch.operation])
    exact (h.start (hSound.finishedAt_eq_none hSource) hBefore).mono hAfter
  | exhaust =>
    obtain ⟨hBefore, hAfter⟩ := hNow (by simp [Batch.operation])
    exact Timely.mono (h.finish hBefore rfl rfl rfl) hAfter
  | complete =>
    obtain ⟨hBefore, hAfter⟩ := hNow (by simp [Batch.operation])
    exact Timely.mono (h.finish hBefore rfl rfl rfl) hAfter
  | fail =>
    obtain ⟨hBefore, hAfter⟩ := hNow (by simp [Batch.operation])
    exact Timely.mono (h.finish hBefore rfl rfl rfl) hAfter
  | requeue => exact Timely.mono (h.withoutStart rfl rfl rfl) hLatest

end Job

namespace Store

/-- What one call leaves stored has its times in order, if the call does not read an earlier time
than the calls before it. -/
theorem Sound.timely_step {s : Store} (hs : s.Sound) {readings : List Instant} (c : Call)
    (hPrevious : ∀ id, ∀ j ∈ s.get? id, ∃ latest ∈ readings.getLast?, j.Timely latest)
    (hClock : c.readsClock = true → ∀ t ∈ readings, t ≤ c.now) (id : String) :
    ∀ k ∈ (s.step c).get? id,
      ∃ latest ∈ (readings ++ clockReadings [c]).getLast?, k.Timely latest := by
  have hChanges := s.changes_after c.now c.batch id
  have hStored := hPrevious id
  have hSound := hs id
  rw [← Store.step] at hChanges
  generalize s.get? id = before at hChanges hStored hSound
  generalize (s.step c).get? id = stored at hChanges
  cases hReads : c.readsClock with
  | true =>
    have hReading : clockReadings [c] = [c.now] := by simp [clockReadings, hReads]
    have hLast : c.now ∈ (readings ++ clockReadings [c]).getLast? := by simp [hReading]
    have hBefore {latest : Instant} (hMem : latest ∈ readings.getLast?) : latest ≤ c.now :=
      hClock hReads latest (List.mem_of_getLast? hMem)
    cases hChanges with
    | stay =>
      intro j hj
      obtain ⟨latest, hMem, hTimely⟩ := hStored j hj
      exact ⟨c.now, hLast, hTimely.mono (hBefore hMem)⟩
    | @enter _ x =>
      rintro k ⟨⟩
      exact ⟨c.now, hLast, Job.timely_toJob x c.now⟩
    | move _ hAsks hAct =>
      rintro k ⟨⟩
      obtain ⟨latest, hMem, hTimely⟩ := hStored _ rfl
      exact ⟨c.now, hLast, hTimely.move (hSound _ rfl) hAsks hAct (hBefore hMem)
        fun _ => ⟨hBefore hMem, Instant.le_refl c.now⟩⟩
  | false =>
    have hReading : clockReadings [c] = [] := by simp [clockReadings, hReads]
    rw [hReading, List.append_nil]
    cases hChanges with
    | stay => exact hStored
    | @enter _ x hBatch hAccepted hx hid =>
      have hNamed : id ∈ c.batch.requestIds := by
        rw [hBatch]
        exact List.mem_map.mpr ⟨x, hx, hid⟩
      have hReads' := Call.readsClock_of_accepted hAccepted hNamed
        (by simp [hBatch, Batch.operation])
      rw [hReads] at hReads'
      cases hReads'
    | move hAccepted hAsks hAct =>
      rintro k ⟨⟩
      obtain ⟨latest, hMem, hTimely⟩ := hStored _ rfl
      refine ⟨latest, hMem, hTimely.move (hSound _ rfl) hAsks hAct (Instant.le_refl latest) ?_⟩
      intro hRetry
      have hReads' := Call.readsClock_of_accepted hAccepted hAsks.mem_requestIds hRetry
      rw [hReads] at hReads'
      cases hReads'

/-- While the clock is never set back, every stored job has its times in order, and none of them is
later than what was last read from the clock. -/
theorem times_in_order {calls : List Call} (hClock : ClockNeverFalls calls) {id : String} {j : Job}
    (hj : (empty.run calls).get? id = some j) :
    ∃ latest, (clockReadings calls).getLast? = some latest ∧ j.Timely latest := by
  induction calls using List.reverseRecOn generalizing id j with
  | nil => cases hj
  | append_singleton calls c ih =>
    rw [ClockNeverFalls, clockReadings_append] at hClock
    obtain ⟨hCalls, _, hLater⟩ := List.pairwise_append.mp hClock
    rw [run_append] at hj
    rw [clockReadings_append]
    refine (sound_empty.run calls).timely_step c (fun _ _ hj => ih hCalls hj) ?_ id j hj
    intro hReads t ht
    exact hLater t ht c.now (by simp [clockReadings, hReads])

/-- The job is started again a second later and finished then; the retry in between and the refused
claim carry times that nobody reads. -/
theorem times_in_order_secondAttempt :
    let calls : List Call :=
      [⟨newYear, .insert [⟨"a", "h", "org", newYear⟩]⟩, ⟨newYear, .claim ["a"] 3⟩,
        ⟨newYearLater, .retry ["a"] "timeout"⟩, ⟨newYear, .claim ["a"] 3⟩,
        ⟨newYear, .retry ["a"] "timeout"⟩, ⟨newYearLater, .claim ["a"] 3⟩,
        ⟨newYear, .claim [" "] 3⟩, ⟨newYearLater, .complete [⟨"a", "t", "c", 7⟩]⟩]
    ClockNeverFalls calls ∧ ∃ j, (empty.run calls).get? "a" = some j ∧ j.status = .completed ∧
      j.retries = 2 ∧ j.storedAt = newYear ∧ j.startedAt = some newYearLater ∧
      j.Timely newYearLater := by
  intro calls
  have hClock : ClockNeverFalls calls := by decide
  obtain ⟨j, hj, hStatus, hRetries, hStored, hStarted⟩ : ∃ j ∈ (empty.run calls).get? "a",
      j.status = .completed ∧ j.retries = 2 ∧ j.storedAt = newYear ∧
        j.startedAt = some newYearLater := by decide
  obtain ⟨latest, hLatest, hTimely⟩ := times_in_order hClock hj
  have hLast : (clockReadings calls).getLast? = some newYearLater := by decide
  cases hLatest.symm.trans hLast
  exact ⟨hClock, j, hj, hStatus, hRetries, hStored, hStarted, hTimely⟩

end Store

end AnchorQueue
