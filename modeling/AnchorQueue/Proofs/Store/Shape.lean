import AnchorQueue.Proofs.Store.Run
import Mathlib.Algebra.Group.Nat.Defs

/-!
# The shape of a stored job

In every state that calls lead to, the status of a job tells which of its other fields are set. The
invariant also says that a job in process has a retry left, because no claim hands out a job at its
ceiling; without this a retry could wrap the count back to zero.
-/

namespace AnchorQueue

open AnchorQueue.Time (Instant)

namespace Job

/-- No field of the ledger is set. -/
def Unanchored (j : Job) : Prop :=
  j.txHash = none ∧ j.blockHeight = none ∧ j.chainHash = none

/-- Which fields are set, status by status. -/
def Shaped (j : Job) : Prop :=
  match j.status with
  | .received =>
    j.startedAt = none ∧ j.finishedAt = none ∧ j.Unanchored ∧
      (j.errorMessage = none ↔ j.retries = 0)
  | .processing =>
    j.startedAt ≠ none ∧ j.finishedAt = none ∧ j.Unanchored ∧
      (j.errorMessage = none ↔ j.retries = 0)
  | .completed =>
    j.startedAt ≠ none ∧ j.finishedAt ≠ none ∧ j.txHash ≠ none ∧ j.chainHash ≠ none ∧
      (∃ height, j.blockHeight = some height ∧ height.toNat ≤ 2 ^ 63 - 1) ∧ j.errorMessage = none
  | .failed =>
    j.finishedAt ≠ none ∧ j.errorMessage ≠ none ∧ j.Unanchored ∧
      (j.startedAt = none → ∃ ceiling ≤ j.retries, j.errorMessage = some (exhaustedMessage ceiling))

/-- What every call keeps of the job that is stored under an id. -/
structure Sound (id : String) (j : Job) : Prop where
  key : j.requestId = id
  id_not_blank : Text.isBlank j.requestId = false
  hash_not_blank : Text.isBlank j.logHash = false
  shaped : j.Shaped
  room : j.status = .processing → j.retries.toNat + 1 < 2 ^ 32

theorem toNat_succ_of_room {n : UInt32} (h : n.toNat + 1 < 2 ^ 32) :
    (n + 1).toNat = n.toNat + 1 := by
  rw [UInt32.toNat_add, UInt32.toNat_one, Nat.mod_eq_of_lt h]

theorem sound_toJob {submissions : List Submission}
    (h : (Batch.insert submissions).fault? = none) {x : Submission} (hx : x ∈ submissions)
    (now : Instant) : (x.toJob now).Sound x.requestId where
  key := rfl
  id_not_blank := (Batch.not_blank_of_submission h hx).1
  hash_not_blank := (Batch.not_blank_of_submission h hx).2
  shaped := by simp [Shaped, Submission.toJob, Unanchored]
  room := by simp [Submission.toJob]

/-- One case per action: the fields that it writes are those that its target asks for. -/
theorem Sound.move {b : Batch} {now : Instant} {id : String} {j k : Job} {a : Action}
    (h : j.Sound id) (hAccepted : b.fault? = none) (hAsks : b.Asks now id j a)
    (hAct : j.act? a = some k) : k.Sound id := by
  obtain ⟨⟨hSource, _⟩, rfl⟩ := act?_eq_some_iff.mp hAct
  have hShaped := h.shaped
  cases hAsks with
  | @start ids ceiling hid hBelow =>
    simp only [Shaped, hSource, Action.source] at hShaped
    obtain ⟨_, hFinished, hLedger, hError⟩ := hShaped
    refine ⟨h.key, h.id_not_blank, h.hash_not_blank, ?_, fun _ => ?_⟩
    · simp only [Shaped, Action.revise, Action.target]
      exact ⟨Option.some_ne_none now, hFinished, hLedger, hError⟩
    · -- The retries are below the ceiling, and the ceiling itself fits into the word.
      have hLast := UInt32.lt_iff_toNat_lt.mp hBelow
      have hWord := ceiling.toNat_lt
      simp only [Action.revise]
      omega
  | @exhaust ids ceiling hid hCeiling =>
    simp only [Shaped, hSource, Action.source] at hShaped
    obtain ⟨_, _, hLedger, _⟩ := hShaped
    refine ⟨h.key, h.id_not_blank, h.hash_not_blank, ?_, fun hStatus => by cases hStatus⟩
    simp only [Shaped, Action.revise, Action.target]
    exact ⟨Option.some_ne_none now, Option.some_ne_none _, hLedger,
      fun _ => ⟨ceiling, hCeiling, rfl⟩⟩
  | @complete anchorings a ha hid =>
    simp only [Shaped, hSource, Action.source] at hShaped
    refine ⟨h.key, h.id_not_blank, h.hash_not_blank, ?_, fun hStatus => by cases hStatus⟩
    simp only [Shaped, Action.revise, Action.target]
    exact ⟨hShaped.1, Option.some_ne_none now, Option.some_ne_none _, Option.some_ne_none _,
      ⟨a.blockHeight, rfl, Batch.height_le_of_anchoring hAccepted ha⟩, trivial⟩
  | @fail failures f hf hid =>
    simp only [Shaped, hSource, Action.source] at hShaped
    obtain ⟨hStarted, _, hLedger, _⟩ := hShaped
    refine ⟨h.key, h.id_not_blank, h.hash_not_blank, ?_, fun hStatus => by cases hStatus⟩
    simp only [Shaped, Action.revise, Action.target]
    exact ⟨Option.some_ne_none now, Option.some_ne_none _, hLedger,
      fun hNone => absurd hNone hStarted⟩
  | @requeue ids lastError hid =>
    have hRoom := h.room hSource
    simp only [Shaped, hSource, Action.source] at hShaped
    obtain ⟨_, hFinished, hLedger, _⟩ := hShaped
    refine ⟨h.key, h.id_not_blank, h.hash_not_blank, ?_, fun hStatus => by cases hStatus⟩
    simp only [Shaped, Action.revise, Action.target]
    refine ⟨trivial, hFinished, hLedger, fun hNone => absurd hNone (Option.some_ne_none _), ?_⟩
    intro hZero
    -- The job had room for one retry more, so the count did not wrap round to zero.
    have hSucc := toNat_succ_of_room hRoom
    rw [hZero, UInt32.toNat_zero] at hSucc
    exact absurd hSucc (Nat.succ_ne_zero _).symm

theorem Sound.changes {b : Batch} {now : Instant} {id : String} {before after : Option Job}
    (hChanges : b.Changes now id before after) (h : ∀ j ∈ before, j.Sound id) :
    ∀ k ∈ after, k.Sound id := by
  cases hChanges with
  | stay => exact h
  | enter hBatch hAccepted hx hid =>
    intro k hk
    cases hk
    subst hBatch hid
    exact sound_toJob hAccepted hx now
  | move hAccepted hAsks hAct =>
    intro k hk
    cases hk
    exact (h _ rfl).move hAccepted hAsks hAct

end Job

namespace Store

def Sound (s : Store) : Prop :=
  ∀ id, ∀ j ∈ s.get? id, j.Sound id

theorem sound_empty : empty.Sound := by
  intro id j hj
  rw [get?_empty] at hj
  cases hj

theorem Sound.step {s : Store} (h : s.Sound) (c : Call) : (s.step c).Sound :=
  fun id => Job.Sound.changes (s.changes_after c.now c.batch id) (h id)

theorem Sound.run {s : Store} (h : s.Sound) (calls : List Call) : (s.run calls).Sound :=
  run_induction (fun _ c hs => hs.step c) h calls

/-- After every run the entries of the store carry their own ids, have neither a blank id nor a
blank hash, and have the fields that their status asks for. -/
theorem shaped_of_mem_run (calls : List Call) :
    ∀ entry ∈ (empty.run calls).jobs.entries, entry.2.requestId = entry.1 ∧
      Text.isBlank entry.2.requestId = false ∧ Text.isBlank entry.2.logHash = false ∧
      entry.2.Shaped := by
  rintro ⟨id, j⟩ hEntry
  have hSound := sound_empty.run calls id j ((Roster.get?_eq_some_iff _).mpr hEntry)
  exact ⟨hSound.key, hSound.id_not_blank, hSound.hash_not_blank, hSound.shaped⟩

theorem shaped_of_mem_run_twoAttempts :
    ∃ j : Job, ("a", j) ∈ (empty.run twoAttempts).jobs.entries ∧ j.status = .processing ∧
      j.retries = 1 ∧ j.Shaped := by
  have hEntry : ("a", ⟨"a", "h", "org", newYear, newYear, .processing, some newYear, none, none,
      none, none, some "timeout", 1⟩) ∈ (empty.run twoAttempts).jobs.entries := by decide
  exact ⟨_, hEntry, rfl, rfl, (shaped_of_mem_run twoAttempts _ hEntry).2.2.2⟩

end Store

end AnchorQueue
