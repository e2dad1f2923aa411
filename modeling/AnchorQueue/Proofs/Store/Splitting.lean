import AnchorQueue.Proofs.Store.Affected
import AnchorQueue.Proofs.Store.Repetition

/-!
# Batches in parts

Items may come in one batch or in two, one right after the other. Repetitions within one batch are
dropped before anything is done, and repetitions across two batches find their id settled by the
first, so both ways end with the same jobs, and the two parts together affect and count what the
whole does.
-/

namespace AnchorQueue

open AnchorQueue.Time (Instant)

namespace Batch

/-- The batch has the items of a first part, followed by those of a second. -/
inductive Splits : Batch → Batch → Batch → Prop
  | insert (xs ys : List Submission) : Splits (.insert (xs ++ ys)) (.insert xs) (.insert ys)
  | claim (xs ys : List String) (ceiling : UInt32) :
    Splits (.claim (xs ++ ys) ceiling) (.claim xs ceiling) (.claim ys ceiling)
  | complete (xs ys : List Anchoring) :
    Splits (.complete (xs ++ ys)) (.complete xs) (.complete ys)
  | fail (xs ys : List Failure) : Splits (.fail (xs ++ ys)) (.fail xs) (.fail ys)
  | retry (xs ys : List String) (lastError : String) :
    Splits (.retry (xs ++ ys) lastError) (.retry xs lastError) (.retry ys lastError)

variable {b first second : Batch}

theorem Splits.operation_first (h : b.Splits first second) : first.operation = b.operation := by
  cases h <;> rfl

theorem Splits.operation_second (h : b.Splits first second) : second.operation = b.operation := by
  cases h <;> rfl

theorem firstFault_append_eq_none {α : Type} {key : α → String}
    {fault : List String → α → Option BatchFault}
    (hFewer : ∀ seen seen' x, seen' ⊆ seen → fault seen x = none → fault seen' x = none)
    {xs ys : List α} (h : firstFault key fault [] (xs ++ ys) = none) :
    firstFault key fault [] xs = none ∧ firstFault key fault [] ys = none := by
  have hSub (zs : List α) (hPart : zs.Sublist (xs ++ ys)) : firstFault key fault [] zs = none :=
    firstFault_eq_none_of_sublist key hFewer hPart (List.Subset.refl []) h
  exact ⟨hSub xs (List.sublist_append_left xs ys), hSub ys (List.sublist_append_right xs ys)⟩

theorem Splits.accepted (h : b.Splits first second) (hAccepted : b.fault? = none) :
    first.fault? = none ∧ second.fault? = none := by
  cases h with
  | insert xs ys =>
    apply firstFault_append_eq_none _ hAccepted
    intro seen seen' x _ hx
    exact submissionFault_eq_none_iff.mpr (submissionFault_eq_none_iff.mp hx)
  | claim xs ys ceiling =>
    apply firstFault_append_eq_none _ hAccepted
    intro seen seen' k _ hk
    exact idFault_eq_none_iff.mpr (idFault_eq_none_iff.mp hk)
  | complete xs ys =>
    apply firstFault_append_eq_none _ hAccepted
    intro seen seen' a hFewer ha
    obtain ⟨hBlank, hHeight, hNew⟩ := anchoringFault_eq_none_iff.mp ha
    exact anchoringFault_eq_none_iff.mpr ⟨hBlank, hHeight, fun hSeen => hNew (hFewer hSeen)⟩
  | fail xs ys =>
    apply firstFault_append_eq_none _ hAccepted
    intro seen seen' f hFewer hf
    obtain ⟨hBlank, hNew⟩ := failureFault_eq_none_iff.mp hf
    exact failureFault_eq_none_iff.mpr ⟨hBlank, fun hSeen => hNew (hFewer hSeen)⟩
  | retry xs ys lastError =>
    apply firstFault_append_eq_none _ hAccepted
    intro seen seen' k _ hk
    exact idFault_eq_none_iff.mpr (idFault_eq_none_iff.mp hk)

theorem ite_mem_append {α : Type} (id : String) (xs ys : List String) (a : α) :
    (if id ∈ xs ++ ys then some a else none) =
      (if id ∈ xs then some a else none).or (if id ∈ ys then some a else none) := by
  by_cases hx : id ∈ xs <;> simp [hx]

theorem Splits.actionOn_eq (h : b.Splits first second) (now : Instant) (id : String) (j : Job) :
    b.actionOn now id j = (first.actionOn now id j).or (second.actionOn now id j) := by
  cases h with
  | insert xs ys => rfl
  | claim xs ys ceiling => exact ite_mem_append id xs ys _
  | complete xs ys => simp only [actionOn, List.find?_append, Option.map_or]
  | fail xs ys => simp only [actionOn, List.find?_append, Option.map_or]
  | retry xs ys lastError => exact ite_mem_append id xs ys _

theorem Splits.entering_eq (h : b.Splits first second) (now : Instant) (id : String) :
    b.entering now id = (first.entering now id).or (second.entering now id) := by
  cases h with
  | insert xs ys => simp only [entering, List.find?_append, Option.map_or]
  | claim | complete | fail | retry => rfl

/-- Where the first part does something the second finds the id settled, and elsewhere the second
part does what the whole does. -/
theorem Splits.stepOn_eq (h : b.Splits first second) (now : Instant) (id : String)
    (stored : Option Job) :
    b.stepOn now id stored = second.stepOn now id (first.stepOn now id stored) := by
  have hSame : second.operation = first.operation := h.operation_second.trans h.operation_first.symm
  cases stored with
  | none =>
    rw [stepOn, stepOn, h.entering_eq]
    cases hEntering : first.entering now id with
    | none => rfl
    | some j => exact (stepOn_of_settled (hSame ▸ settled_entering hEntering)).symm
  | some j =>
    rw [stepOn, stepOn, h.actionOn_eq]
    cases ha : first.actionOn now id j with
    | none => rfl
    | some a => exact (stepOn_of_settled (hSame ▸ settled_act ha)).symm

end Batch

/-- What the first answer says was done is what the other two say together. -/
def BatchResult.Comprises : BatchResult → BatchResult → BatchResult → Prop
  | report r, report r₁, report r₂ => r.affected = r₁.affected + r₂.affected
  | claimed jobs, claimed jobs₁, claimed jobs₂ =>
    (jobs.map Prod.fst).Nodup ∧ jobs.Perm (jobs₁ ++ jobs₂)
  | _, _, _ => False

theorem Operation.counter_cases (o : Operation) :
    o.counter = .inserted ∨ ∃ source target, o.counter = .moved source target := by
  cases o with
  | insert => exact Or.inl rfl
  | claim | complete | fail | retry => exact Or.inr ⟨_, _, rfl⟩

namespace Store

open Signal (total)

variable {b first second : Batch}

theorem get?_step_of_splits (s : Store) (h : b.Splits first second) (hAccepted : b.fault? = none)
    (now : Instant) (id : String) :
    (s.run [⟨now, b⟩]).get? id = (s.run [⟨now, first⟩, ⟨now, second⟩]).get? id := by
  obtain ⟨hFirst, hSecond⟩ := h.accepted hAccepted
  change (s.after now b).get? id = ((s.after now first).after now second).get? id
  rw [s.get?_after now hAccepted, get?_after _ now hSecond, s.get?_after now hFirst, h.stepOn_eq]

theorem not_waiting_after_claim (s : Store) {now : Instant} {ids : List String} {ceiling : UInt32}
    (h : (Batch.claim ids ceiling).fault? = none) {id : String} (hid : id ∈ ids) {j : Job}
    (hj : (s.step ⟨now, .claim ids ceiling⟩).get? id = some j) : j.status ≠ .received := by
  have hSettled := s.settled_step (c := ⟨now, .claim ids ceiling⟩) h hid
  rw [hj] at hSettled
  exact fun hStatus => hSettled (congrArg some hStatus)

/-- The first part of a claim leaves the second the jobs that only the second names. -/
theorem claimed_append_perm (s : Store) (now : Instant) {xs : List String} (ys : List String)
    {ceiling : UInt32} (h : (Batch.claim xs ceiling).fault? = none) :
    (s.claimed now (Batch.distinct id (xs ++ ys)) ceiling).Perm
      (s.claimed now (Batch.distinct id xs) ceiling ++
        (s.step ⟨now, .claim xs ceiling⟩).claimed now (Batch.distinct id ys) ceiling) := by
  have hNodup (t : Store) (ids : List String) :
      (t.claimed now (Batch.distinct id ids) ceiling).Nodup :=
    .of_map Prod.fst (t.nodup_keys_claimed now ceiling (Batch.nodup_distinct_ids ids))
  have hDisjoint : (s.claimed now (Batch.distinct id xs) ceiling).Disjoint
      ((s.step ⟨now, .claim xs ceiling⟩).claimed now (Batch.distinct id ys) ceiling) := by
    rintro ⟨k, started⟩ hx hy
    rw [mem_claimed_distinct_iff] at hx hy
    obtain ⟨_, j, hj, hStatus, _⟩ := hy
    exact s.not_waiting_after_claim h hx.1 hj hStatus
  refine (List.perm_ext_iff_of_nodup (hNodup s _) ((hNodup s xs).append (hNodup _ ys)
    hDisjoint)).mpr ?_
  rintro ⟨k, started⟩
  rw [List.mem_append, mem_claimed_distinct_iff, mem_claimed_distinct_iff, mem_claimed_distinct_iff]
  by_cases hk : k ∈ xs
  · have hNone : ¬∃ j, (s.step ⟨now, .claim xs ceiling⟩).get? k = some j ∧ j.status = .received ∧
        j.retries < ceiling ∧
        { j with status := .processing, startedAt := some now } = started := by
      rintro ⟨j, hj, hStatus, _⟩
      exact s.not_waiting_after_claim h hk hj hStatus
    simp only [List.mem_append, hk, hNone, true_or, and_false, or_false]
  · rw [s.get?_step_of_not_mem (c := ⟨now, .claim xs ceiling⟩) hk]
    simp only [List.mem_append, hk, false_or, false_and]

theorem exists_report (s : Store) (now : Instant) (hAccepted : b.fault? = none)
    (h : b.operation ≠ .claim) : ∃ r, s.resultOf ⟨now, b⟩ = .ok (.report r) := by
  rw [s.resultOf_of_accepted hAccepted]
  cases b with
  | claim ids ceiling => exact absurd rfl h
  | insert | complete | fail | retry => exact ⟨_, rfl⟩

/-- The whole and its parts end with the same jobs, so they count the same. -/
theorem Sound.total_of_splits {s : Store} (hs : s.Sound) (h : b.Splits first second)
    (hAccepted : b.fault? = none) (now : Instant) {k : Counter}
    (hk : k = .inserted ∨ ∃ source target, k = .moved source target) :
    total k (s.runSignals [⟨now, b⟩]) = total k (s.runSignals [⟨now, first⟩, ⟨now, second⟩]) := by
  refine hs.total_eq_of_get?_eq (o := b.operation) ?_ ?_
    (s.get?_step_of_splits h hAccepted now) hk
  · exact List.forall_mem_singleton.mpr rfl
  · exact List.forall_mem_cons.mpr
      ⟨h.operation_first, List.forall_mem_singleton.mpr h.operation_second⟩

theorem Sound.affected_of_splits {s : Store} (hs : s.Sound) (h : b.Splits first second)
    (hAccepted : b.fault? = none) {now : Instant} {r r₁ r₂ : BatchResult}
    (hr : s.resultOf ⟨now, b⟩ = .ok r) (hr₁ : s.resultOf ⟨now, first⟩ = .ok r₁)
    (hr₂ : (s.step ⟨now, first⟩).resultOf ⟨now, second⟩ = .ok r₂) :
    r.affected = r₁.affected + r₂.affected := by
  have hTotal := hs.total_of_splits h hAccepted now b.operation.counter_cases
  have hFirst := s.total_counter_signals hr₁
  have hSecond := total_counter_signals _ hr₂
  rw [h.operation_first] at hFirst
  rw [h.operation_second] at hSecond
  simp only [runSignals, Signal.total_append, Signal.total_nil, Nat.add_zero,
    s.total_counter_signals hr, hFirst, hSecond] at hTotal
  exact hTotal

theorem Sound.exists_comprises {s : Store} (hs : s.Sound) (h : b.Splits first second)
    (hAccepted : b.fault? = none) (now : Instant) :
    ∃ r r₁ r₂, s.resultOf ⟨now, b⟩ = .ok r ∧ s.resultOf ⟨now, first⟩ = .ok r₁ ∧
      (s.step ⟨now, first⟩).resultOf ⟨now, second⟩ = .ok r₂ ∧ r.Comprises r₁ r₂ := by
  obtain ⟨hFirst, hSecond⟩ := h.accepted hAccepted
  by_cases hClaim : b.operation = .claim
  · cases h with
    | claim xs ys ceiling =>
      exact ⟨_, _, _, s.resultOf_claim now hAccepted, s.resultOf_claim now hFirst,
        resultOf_claim _ now hSecond,
        s.nodup_keys_claimed now ceiling (Batch.nodup_distinct_ids _),
        s.claimed_append_perm now ys hFirst⟩
    | insert | complete | fail | retry => cases hClaim
  · obtain ⟨r, hr⟩ := s.exists_report now hAccepted hClaim
    obtain ⟨r₁, hr₁⟩ := s.exists_report now hFirst (by rwa [h.operation_first])
    obtain ⟨r₂, hr₂⟩ :=
      (s.step ⟨now, first⟩).exists_report now hSecond (by rwa [h.operation_second])
    exact ⟨_, _, _, hr, hr₁, hr₂, hs.affected_of_splits h hAccepted hr hr₁ hr₂⟩

theorem submitted_of_splits (h : b.Splits first second) (hAccepted : b.fault? = none)
    (now : Instant) : submitted [⟨now, b⟩] = submitted [⟨now, first⟩, ⟨now, second⟩] := by
  obtain ⟨hFirst, hSecond⟩ := h.accepted hAccepted
  cases h with
  | insert xs ys => simp [submitted, Call.submitted, hAccepted, hFirst, hSecond]
  | claim | complete | fail | retry => rfl

/-- It does not matter whether items come in one batch or in two: the same jobs are stored in the
end, the parts together affect what the whole affects, and the counters of submissions and moves go
up by the same amounts. -/
theorem batching_transparent (calls : List Call) (now : Instant) (h : b.Splits first second)
    (hAccepted : b.fault? = none) :
    let s := empty.run calls
    (∀ id, (s.run [⟨now, b⟩]).get? id = (s.run [⟨now, first⟩, ⟨now, second⟩]).get? id) ∧
    (∃ r r₁ r₂, s.resultOf ⟨now, b⟩ = .ok r ∧ s.resultOf ⟨now, first⟩ = .ok r₁ ∧
      (s.step ⟨now, first⟩).resultOf ⟨now, second⟩ = .ok r₂ ∧ r.Comprises r₁ r₂) ∧
    ∀ k, (∀ o, k ≠ .mismatch o) →
      total k (s.runSignals [⟨now, b⟩]) =
        total k (s.runSignals [⟨now, first⟩, ⟨now, second⟩]) := by
  intro s
  have hs : s.Sound := sound_empty.run calls
  refine ⟨s.get?_step_of_splits h hAccepted now, hs.exists_comprises h hAccepted now, ?_⟩
  intro k hk
  cases k with
  | inserted => exact hs.total_of_splits h hAccepted now (Or.inl rfl)
  | moved source target =>
    exact hs.total_of_splits h hAccepted now (Or.inr ⟨source, target, rfl⟩)
  | duplicate =>
    -- What is not new is the rest of the submissions, and these are the same.
    have hInserted := hs.total_of_splits h hAccepted now (Or.inl rfl)
    have hWhole := s.total_submitted_runSignals [⟨now, b⟩]
    have hParts := s.total_submitted_runSignals [⟨now, first⟩, ⟨now, second⟩]
    rw [submitted_of_splits h hAccepted now] at hWhole
    omega
  | mismatch o => exact absurd rfl (hk o)

/-- One job waits for its second attempt, the other for its first. -/
def requeued : List Call :=
  [⟨newYear, .insert [⟨"a", "h", "org", newYear⟩, ⟨"b", "h", "org", newYear⟩]⟩,
    ⟨newYear, .claim ["a"] 1⟩, ⟨newYear, .retry ["a"] "timeout"⟩]

/-- The first part fails the job at the ceiling and hands out the other, and the second part, which
names both again, does nothing. -/
theorem batching_transparent_overlappingClaims :
    let s := empty.run requeued
    let whole : Call := ⟨newYear, .claim (["a", "b"] ++ ["b", "a", "c"]) 1⟩
    let first : Call := ⟨newYear, .claim ["a", "b"] 1⟩
    let second : Call := ⟨newYear, .claim ["b", "a", "c"] 1⟩
    (∃ j ∈ (s.run [whole]).get? "a", (s.run [first, second]).get? "a" = some j ∧
      j.status = .failed) ∧
    (∃ r r₁ r₂, s.resultOf whole = .ok r ∧ s.resultOf first = .ok r₁ ∧
      (s.step first).resultOf second = .ok r₂ ∧ r.Comprises r₁ r₂ ∧
      r.handedOut = ["b"] ∧ r₁.handedOut = ["b"] ∧ r₂.handedOut = []) ∧
    total (.moved .received .failed) (s.runSignals [first, second]) = 1 := by
  intro s whole first second
  obtain ⟨hStored, ⟨r, r₁, r₂, hr, hr₁, hr₂, hComprises⟩, hCounters⟩ :=
    batching_transparent requeued newYear (.claim ["a", "b"] ["b", "a", "c"] 1) (by decide)
  have hFailed : ∃ j ∈ (s.run [whole]).get? "a", j.status = .failed := by decide
  obtain ⟨j, hj, hStatus⟩ := hFailed
  refine ⟨⟨j, hj, (hStored "a").symm.trans hj, hStatus⟩,
    ⟨r, r₁, r₂, hr, hr₁, hr₂, hComprises, ?_, ?_, ?_⟩, ?_⟩
  · rw [← handedOut_of_resultOf hr]
    decide
  · rw [← handedOut_of_resultOf hr₁]
    decide
  · rw [← handedOut_of_resultOf hr₂]
    decide
  · rw [← hCounters (.moved .received .failed) (by simp)]
    decide

end Store

end AnchorQueue
