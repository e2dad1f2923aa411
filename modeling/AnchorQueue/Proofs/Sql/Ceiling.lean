import AnchorQueue.Proofs.Sql.Sharing

/-!
# The event of the retry ceiling

A claim tells that jobs have failed as soon as its update went through, and not after the commit as
its counters do. So the event is wrong where a later statement fails and all is rolled back, and
only there.
-/

namespace AnchorQueue.Sql

open AnchorQueue.Time (Instant)
open Signal (events ofMoves)

/-- The commit was sent and went through. -/
def Exchange.Committed (e : Exchange BatchResult) (replies : List Reply) : Prop :=
  ∃ i, e.sent[i]? = some .commit ∧ Statement.commit.verdict (replyTo replies i) = .succeeded

/-- Jobs are said to have reached the ceiling only after the commit, and as many as were failed. -/
def Exchange.Truthful (e : Exchange BatchResult) (replies : List Reply) : Prop :=
  ∀ count ceiling, .ceilingReached count ceiling ∈ events e.signals →
    e.Committed replies ∧ ∃ i message time ids, e.sent[i]? = some (.exhaust message time ids) ∧
      (replyTo replies i).response?.map Response.affected = some count

variable {options : StoreOptions} {now : Instant} {ids : List String} {ceiling : UInt32}
  {plan : ClaimPlan} {rows : List FullRow} {replies : List Reply} {n : Nat}

/-! ## The commit -/

theorem Reaches.committed_iff {front sent : List Statement} {isOpen : Bool}
    (h : Reaches isOpen (front ++ [.commit]) replies n sent) (hFront : .commit ∉ front) :
    (∃ i, sent[i]? = some .commit ∧ Statement.commit.verdict (replyTo replies i) = .succeeded) ↔
      Succeed (front ++ [.commit]) replies := by
  constructor
  · rintro ⟨i, hSent, hVerdict⟩
    have hAt : i ≤ n ∧ (front ++ [Statement.commit])[i]? = some .commit := by
      rw [h.sent_eq, List.getElem?_append] at hSent
      split at hSent
      · rename_i hLt
        rw [List.length_take] at hLt
        have hi : i < n + 1 := Nat.lt_of_lt_of_le hLt (Nat.min_le_left _ _)
        rw [List.getElem?_take_of_lt hi] at hSent
        exact ⟨Nat.le_of_lt_succ hi, hSent⟩
      · -- Behind the statements there is only the rollback.
        have hMem := List.mem_of_getElem? hSent
        split at hMem <;> simp at hMem
    have hPlace : front.length ≤ i := by
      refine Nat.le_of_not_lt fun hLt => hFront ?_
      rw [List.getElem?_append_left hLt] at hAt
      exact List.mem_of_getElem? hAt.2
    have hLt := (h.lt_iff hAt.2).mpr ⟨hAt.1, hVerdict⟩
    refine h.eq_length_iff.mp (Nat.le_antisymm h.le_length ?_)
    rw [List.length_append]
    exact Nat.lt_of_le_of_lt hPlace hLt
  · intro hAll
    have hLast : (front ++ [Statement.commit])[front.length]? = some .commit :=
      List.getElem?_concat_length
    rw [h.sent_eq_of_succeed hAll]
    exact ⟨front.length, hLast, hAll _ _ hLast⟩

/-! ## The event -/

theorem events_claimSignals_of_ne {s : Statement}
    (h : ∀ message time ids, s ≠ .exhaust message time ids) :
    events (claimSignals ceiling plan rows s) = [] := by
  cases s with
  | exhaust message time ids => exact absurd rfl (h message time ids)
  | commit => rw [claimSignals, Signal.events_append, Signal.events_ofMoves, Signal.events_ofMoves,
      List.append_nil]
  | _ => rfl

theorem events_flatMap_eq_nil {statements : List Statement}
    (h : ∀ message time ids, .exhaust message time ids ∉ statements) :
    events (statements.flatMap (claimSignals ceiling plan rows)) = [] := by
  rw [events, List.filterMap_flatMap, List.flatMap_eq_nil_iff]
  intro s hs
  refine events_claimSignals_of_ne fun message time ids hExhaust => h message time ids ?_
  rwa [← hExhaust]

theorem exhaust_not_mem_afterExhausting (plan : ClaimPlan) (message : String)
    (time now : Instant) (bound : List String) :
    .exhaust message time bound ∉ afterExhausting plan now := by
  rw [afterExhausting]
  split <;> simp

/-- A claim with nothing to exhaust has no event. -/
theorem events_take_of_none (h : plan.exhausted = []) (n : Nat) :
    events (((planned options now ids ceiling plan).take n).flatMap
      (claimSignals ceiling plan rows)) = [] := by
  apply events_flatMap_eq_nil
  intro message time bound hMem
  have hAll := List.mem_of_mem_take hMem
  rw [planned, afterLock, if_pos (List.isEmpty_iff.mpr h), List.mem_append] at hAll
  rcases hAll with hOpening | hLater
  · simp at hOpening
  · exact exhaust_not_mem_afterExhausting _ _ _ _ _ hLater

theorem planned_of_some (h : plan.exhausted ≠ []) :
    planned options now ids ceiling plan =
      [.beginTransaction, .limitTime options.batchTimeout, .lock ids,
        .exhaust (exhaustedMessage ceiling) now plan.exhausted] ++ afterExhausting plan now := by
  rw [planned, afterLock, if_neg (mt List.isEmpty_iff.mp h)]
  rfl

/-- Otherwise there is one event, behind the fourth statement. -/
theorem events_take_of_some (h : plan.exhausted ≠ []) (n : Nat) :
    events (((planned options now ids ceiling plan).take n).flatMap
      (claimSignals ceiling plan rows)) =
      if 4 ≤ n then [.ceilingReached plan.exhausted.length ceiling] else [] := by
  rw [planned_of_some h]
  match n with
  | 0 | 1 | 2 | 3 => rfl
  | m + 4 =>
    have hLater : events (((afterExhausting plan now).take m).flatMap
        (claimSignals ceiling plan rows)) = [] :=
      events_flatMap_eq_nil fun _ _ _ hMem =>
        exhaust_not_mem_afterExhausting _ _ _ _ _ (List.mem_of_mem_take hMem)
    rw [if_pos (Nat.le_add_left 4 m)]
    exact congrArg (.ceilingReached plan.exhausted.length ceiling :: ·) hLater

/-! ## Claims -/

theorem exists_planned_eq_concat (options : StoreOptions) (now : Instant) (ids : List String)
    (ceiling : UInt32) (plan : ClaimPlan) :
    ∃ front, planned options now ids ceiling plan = front ++ [.commit] ∧ .commit ∉ front := by
  rw [planned, afterLock, afterExhausting]
  split <;> split
  · exact ⟨[_, _, _], rfl, by simp⟩
  · exact ⟨[_, _, _, _], rfl, by simp⟩
  · exact ⟨[_, _, _, _], rfl, by simp⟩
  · exact ⟨[_, _, _, _, _], rfl, by simp⟩

theorem four_le_length_planned (options : StoreOptions) (now : Instant) (ids : List String)
    (ceiling : UInt32) (plan : ClaimPlan) :
    4 ≤ (planned options now ids ceiling plan).length := by
  rw [planned, afterLock, afterExhausting]
  split <;> split <;> simp

/-- The update that exhausts is the fourth statement. -/
theorem eq_three_of_exhaust {message : String} {time : Instant} {bound : List String} {i : Nat}
    (hSome : plan.exhausted ≠ []) (h : (planned options now ids ceiling plan)[i]? =
      some (.exhaust message time bound)) : i = 3 := by
  rw [planned_of_some hSome] at h
  match i with
  | 0 | 1 | 2 => cases h
  | 3 => rfl
  | k + 4 =>
    have hLater : (afterExhausting plan now)[k]? = some (.exhaust message time bound) := h
    exact absurd (List.mem_of_getElem? hLater) (exhaust_not_mem_afterExhausting _ _ _ _ _)

section

variable {e : Exchange BatchResult}
  (h : ClaimReaches ceiling plan (planned options now ids ceiling plan) replies n e)

include h

theorem ClaimReaches.committed_iff :
    e.Committed replies ↔ Succeed (planned options now ids ceiling plan) replies := by
  obtain ⟨front, hFront, hNone⟩ := exists_planned_eq_concat options now ids ceiling plan
  have hReaches := h.toReaches
  rw [hFront] at hReaches ⊢
  exact hReaches.committed_iff hNone

theorem ClaimReaches.events_of_some (hSome : plan.exhausted ≠ [])
    (hDone : Succeed ((planned options now ids ceiling plan).take 4) replies) :
    events e.signals = [.ceilingReached plan.exhausted.length ceiling] := by
  rw [h.events_eq, events_take_of_some hSome,
    if_pos ((h.le_iff 4 (four_le_length_planned options now ids ceiling plan)).mpr hDone)]

theorem ClaimReaches.events_eq_nil (hNot : plan.exhausted = [] ∨
      ¬Succeed ((planned options now ids ceiling plan).take 4) replies) :
    events e.signals = [] := by
  rw [h.events_eq]
  by_cases hNone : plan.exhausted = []
  · exact events_take_of_none hNone n
  · have hStopped := hNot.resolve_left hNone
    rw [← h.le_iff 4 (four_le_length_planned options now ids ceiling plan)] at hStopped
    rw [events_take_of_some hNone, if_neg hStopped]

theorem ClaimReaches.truthful_iff :
    e.Truthful replies ↔ (plan.exhausted ≠ [] →
      Succeed ((planned options now ids ceiling plan).take 4) replies →
      Succeed (planned options now ids ceiling plan) replies ∧
        (replyTo replies 3).response?.map Response.affected = some plan.exhausted.length) := by
  constructor
  · intro hTruthful hSome hDone
    have hEvents := h.events_of_some hSome hDone
    have hTold := hTruthful plan.exhausted.length ceiling
    rw [hEvents] at hTold
    obtain ⟨hCommitted, i, message, time, bound, hSent, hAffected⟩ := hTold List.mem_cons_self
    have hAll := h.committed_iff.mp hCommitted
    rw [h.sent_eq_of_succeed hAll] at hSent
    rw [eq_three_of_exhaust hSome hSent] at hAffected
    exact ⟨hAll, hAffected⟩
  · intro hWhen count ceiling' hTold
    by_cases hDone : plan.exhausted ≠ [] ∧
        Succeed ((planned options now ids ceiling plan).take 4) replies
    · obtain ⟨hAll, hAffected⟩ := hWhen hDone.1 hDone.2
      rw [h.events_of_some hDone.1 hDone.2] at hTold
      cases List.mem_singleton.mp hTold
      refine ⟨h.committed_iff.mpr hAll, 3, exhaustedMessage ceiling, now, plan.exhausted, ?_,
        hAffected⟩
      rw [h.sent_eq_of_succeed hAll, planned_of_some hDone.1]
      rfl
    · rw [h.events_eq_nil (not_and_or.mp hDone |>.imp_left not_not.mp)] at hTold
      cases hTold

end

/-- What a claim tells of the ceiling, and when that is true. -/
structure Announces (options : StoreOptions) (now : Instant) (ids : List String)
    (ceiling : UInt32) (plan : ClaimPlan) (replies : List Reply) (e : Exchange BatchResult) :
    Prop where
  events_of_some : plan.exhausted ≠ [] →
    Succeed ((planned options now ids ceiling plan).take 4) replies →
    events e.signals = [.ceilingReached plan.exhausted.length ceiling]
  events_eq_nil : plan.exhausted = [] ∨
    ¬Succeed ((planned options now ids ceiling plan).take 4) replies → events e.signals = []
  committed_iff : e.Committed replies ↔ Succeed (planned options now ids ceiling plan) replies
  truthful_iff : e.Truthful replies ↔ (plan.exhausted ≠ [] →
    Succeed ((planned options now ids ceiling plan).take 4) replies →
    Succeed (planned options now ids ceiling plan) replies ∧
      (replyTo replies 3).response?.map Response.affected = some plan.exhausted.length)

/-- Whatever is replied to a claim, it tells of the jobs at the ceiling once the update that fails
them went through. That is true only if the rest of the transaction succeeds too, and if the update
changed as many rows as there are such jobs. -/
theorem ceiling_announced (options : StoreOptions) (now : Instant) (replies : List Reply)
    (hIds : ids ≠ []) (hFormed : ¬(Batch.claim ids ceiling).Malformed) :
    Announces options now (Batch.distinct id ids) ceiling
      (ClaimPlan.ofLocked ceiling (replyTo replies 2).locked) replies
      (perform options now (.claim ids ceiling) replies) := by
  obtain ⟨n, h⟩ := exists_claimReaches options now replies hIds hFormed
  exact ⟨h.events_of_some, h.events_eq_nil, h.committed_iff, h.truthful_iff⟩

theorem ceiling_announced_mixed :
    let e := perform .default newYear (.claim ["a", "b", "a"] 3) mixedClaim
    events e.signals = [.ceilingReached 1 3] ∧ e.Committed mixedClaim ∧ e.Truthful mixedClaim := by
  intro e
  have hFormed : ¬(Batch.claim ["a", "b", "a"] 3).Malformed :=
    Batch.not_malformed_iff.mpr (by decide)
  have h := ceiling_announced .default newYear mixedClaim (List.cons_ne_nil _ _) hFormed
  have hAll : Succeed (planned .default newYear ["a", "b"] 3 ⟨["a"], ["b"]⟩) mixedClaim := by
    change Succeed [_, _, _, _, _, _] mixedClaim
    simp only [succeed_cons, succeed_nil, and_true]
    exact ⟨rfl, rfl, rfl, rfl, rfl, rfl⟩
  exact ⟨rfl, h.committed_iff.mpr hAll, h.truthful_iff.mpr fun _ _ => ⟨hAll, rfl⟩⟩

/-- A commit that is refused takes the failed job back, of which the claim has told already. -/
theorem not_always_truthful :
    ¬∀ (options : StoreOptions) (now : Instant) (ids : List String) (ceiling : UInt32)
      (replies : List Reply), ids ≠ [] → ¬(Batch.claim ids ceiling).Malformed →
      (perform options now (.claim ids ceiling) replies).Truthful replies := by
  intro h
  have hFormed : ¬(Batch.claim ["a", "b", "a"] 3).Malformed :=
    Batch.not_malformed_iff.mpr (by decide)
  obtain ⟨n, hReaches⟩ := exists_claimReaches .default newYear refusedCommit
    (List.cons_ne_nil "a" ["b", "a"]) hFormed
  obtain ⟨hCommitted, _⟩ := h .default newYear _ 3 refusedCommit (List.cons_ne_nil "a" ["b", "a"])
    hFormed 1 3 List.mem_cons_self
  have hCommit := hReaches.committed_iff.mp hCommitted 5 .commit rfl
  cases hCommit

end AnchorQueue.Sql
