import AnchorQueue.Proofs.Store.Repetition
import Mathlib.Data.List.Basic

/-!
# Independent batches

A batch reads no jobs but those that it names. Two stores with the same jobs under these ids answer
it alike and give the same signals, wherever else they differ. So two batches that name no id in
common can be swapped: nobody who asks the store, and nobody who reads its counters, can tell in
which order they came.
-/

namespace AnchorQueue

open AnchorQueue.Time (Instant)

namespace Store

/-- The two stores hold the same jobs under the ids. -/
def AgreesOn (s t : Store) (ids : List String) : Prop :=
  ∀ id ∈ ids, s.get? id = t.get? id

variable {s t : Store} {ids : List String}

theorem AgreesOn.put (h : s.AgreesOn t ids) (id : String) (j : Job) :
    (s.put id j).AgreesOn (t.put id j) ids := by
  intro k hk
  rw [get?_put, get?_put, h k hk]

theorem AgreesOn.enroll (h : s.AgreesOn t ids) (now : Instant) {submissions : List Submission}
    (hIds : ∀ x ∈ submissions, x.requestId ∈ ids) :
    (s.enroll now submissions).2 = (t.enroll now submissions).2 := by
  induction submissions generalizing s t with
  | nil => rfl
  | cons x submissions ih =>
    have hRest : ∀ y ∈ submissions, y.requestId ∈ ids :=
      fun y hy => hIds y (List.mem_cons_of_mem x hy)
    rw [Store.enroll, Store.enroll, h x.requestId (hIds x List.mem_cons_self)]
    split
    · exact ih h hRest
    · exact congrArg (· + 1) (ih (h.put _ _) hRest)

theorem AgreesOn.advance (h : s.AgreesOn t ids) {actions : List (String × Action)}
    (hIds : ∀ x ∈ actions, x.1 ∈ ids) :
    (s.advance actions).1.AgreesOn (t.advance actions).1 ids ∧
      (s.advance actions).2 = (t.advance actions).2 := by
  induction actions generalizing s t with
  | nil => exact ⟨h, rfl⟩
  | cons x actions ih =>
    have hRest : ∀ y ∈ actions, y.1 ∈ ids := fun y hy => hIds y (List.mem_cons_of_mem x hy)
    rw [Store.advance, Store.advance, h x.1 (hIds x List.mem_cons_self)]
    split
    · exact ih h hRest
    · rename_i j _
      obtain ⟨hStores, hMoved⟩ := ih (h.put x.1 j) hRest
      exact ⟨hStores, congrArg ((x.1, j) :: ·) hMoved⟩

theorem AgreesOn.waiting (h : s.AgreesOn t ids) : s.waiting ids = t.waiting ids := by
  apply List.filterMap_congr
  intro id hid
  rw [h id hid]

theorem AgreesOn.claim (h : s.AgreesOn t ids) (now : Instant) (ceiling : UInt32) :
    (s.claim now ids ceiling).result = (t.claim now ids ceiling).result ∧
      (s.claim now ids ceiling).signals = (t.claim now ids ceiling).signals := by
  have hExhausted : ∀ x ∈ (ClaimPlan.ofLocked ceiling (t.waiting ids)).exhausted.map
      fun id => (id, Action.exhaust ceiling now), x.1 ∈ ids :=
    List.forall_mem_map.mpr fun id hid => (t.mem_exhausted_iff.mp hid).1
  have hClaimable : ∀ x ∈ (ClaimPlan.ofLocked ceiling (t.waiting ids)).claimable.map
      fun id => (id, Action.start now), x.1 ∈ ids :=
    List.forall_mem_map.mpr fun id hid => (t.mem_claimable_iff.mp hid).1
  obtain ⟨_, hStarted⟩ := (h.advance hExhausted).1.advance hClaimable
  rw [Store.claim, Store.claim, h.waiting]
  dsimp only
  rw [hStarted]
  exact ⟨rfl, rfl⟩

theorem AgreesOn.report (h : s.AgreesOn t ids) (operation : Operation) (target : Status)
    {actions : List (String × Action)} (hIds : ∀ x ∈ actions, x.1 ∈ ids) :
    (s.report operation target actions).result = (t.report operation target actions).result ∧
      (s.report operation target actions).signals =
        (t.report operation target actions).signals := by
  simp only [Store.report, (h.advance hIds).2, and_self]

theorem AgreesOn.effect {b : Batch} (h : s.AgreesOn t b.requestIds) (now : Instant)
    (requested : Nat) :
    (s.effect now requested b).result = (t.effect now requested b).result ∧
      (s.effect now requested b).signals = (t.effect now requested b).signals := by
  cases b with
  | insert submissions =>
    have hCount := h.enroll now fun x hx => List.mem_map_of_mem hx
    simp only [Store.effect, Store.insert, hCount, and_self]
  | claim ids ceiling => exact h.claim now ceiling
  | complete anchorings =>
    exact h.report .complete .completed (List.forall_mem_map.mpr fun a ha => List.mem_map_of_mem ha)
  | fail failures =>
    exact h.report .fail .failed (List.forall_mem_map.mpr fun f hf => List.mem_map_of_mem hf)
  | retry ids lastError =>
    exact h.report .retry .received (List.forall_mem_map.mpr fun id hid => hid)

/-- Stores that agree on the ids of a call answer it alike and give the same signals. -/
theorem AgreesOn.call {c : Call} (h : s.AgreesOn t c.batch.requestIds) :
    s.resultOf c = t.resultOf c ∧ s.signals c = t.signals c := by
  obtain ⟨now, b⟩ := c
  simp only [resultOf, signals]
  cases hFault : b.fault? with
  | some f =>
    rw [s.perform_of_fault now hFault, t.perform_of_fault now hFault]
    exact ⟨rfl, rfl⟩
  | none =>
    by_cases hSize : b.size = 0
    · rw [s.perform_of_size_eq_zero now hSize, t.perform_of_size_eq_zero now hSize]
      exact ⟨rfl, rfl⟩
    · rw [s.perform_of_accepted now hSize hFault, t.perform_of_accepted now hSize hFault]
      have hNormal : s.AgreesOn t b.normalize.requestIds :=
        fun id hid => h id ((b.mem_requestIds_normalize id).mp hid)
      obtain ⟨hResult, hSignals⟩ := hNormal.effect now b.size
      exact ⟨congrArg Except.ok hResult, hSignals⟩

/-- What a call leaves under an id depends on what was stored under that id only. -/
theorem get?_step_congr {id : String} (h : s.get? id = t.get? id) (c : Call) :
    (s.step c).get? id = (t.step c).get? id := by
  cases hFault : c.batch.fault? with
  | some f => rw [step, step, s.after_of_fault c.now hFault, t.after_of_fault c.now hFault, h]
  | none => rw [step, step, s.get?_after c.now hFault, t.get?_after c.now hFault, h]

end Store

/-- The batches name no id in common. -/
def Batch.Independent (b b' : Batch) : Prop :=
  ∀ id ∈ b.requestIds, id ∉ b'.requestIds

instance (b b' : Batch) : Decidable (b.Independent b') :=
  inferInstanceAs (Decidable (∀ id ∈ b.requestIds, id ∉ b'.requestIds))

theorem Batch.Independent.symm {b b' : Batch} (h : b.Independent b') : b'.Independent b :=
  fun id hid' hid => h id hid hid'

namespace Store

open Signal (total)

variable {c d : Call}

theorem agreesOn_step (s : Store) (h : c.batch.Independent d.batch) :
    (s.step d).AgreesOn s c.batch.requestIds :=
  fun id hid => s.get?_step_of_not_mem (h id hid)

theorem get?_step_comm (s : Store) (h : c.batch.Independent d.batch) (id : String) :
    ((s.step c).step d).get? id = ((s.step d).step c).get? id := by
  by_cases hid : id ∈ c.batch.requestIds
  · rw [get?_step_of_not_mem _ (h id hid)]
    exact get?_step_congr (s.agreesOn_step h id hid).symm c
  · rw [get?_step_of_not_mem _ hid]
    exact get?_step_congr (s.get?_step_of_not_mem hid) d

/-- In whatever order two accepted calls without a common id come, the same jobs are stored in the
end, each of the calls has the same answer, and every counter goes up by the same amount. -/
theorem independent_calls_commute (s : Store) {c d : Call} (hc : c.batch.fault? = none)
    (hd : d.batch.fault? = none) (h : c.batch.Independent d.batch) :
    (∀ id, (s.run [c, d]).get? id = (s.run [d, c]).get? id) ∧
    (∃ r, s.resultOf c = .ok r ∧ (s.step d).resultOf c = .ok r) ∧
    (∃ r, (s.step c).resultOf d = .ok r ∧ s.resultOf d = .ok r) ∧
    ∀ k, total k (s.runSignals [c, d]) = total k (s.runSignals [d, c]) := by
  obtain ⟨hResultC, hSignalsC⟩ := (s.agreesOn_step h).call
  obtain ⟨hResultD, hSignalsD⟩ := (s.agreesOn_step h.symm).call
  have hr := s.resultOf_of_accepted hc
  have hq := s.resultOf_of_accepted hd
  refine ⟨s.get?_step_comm h, ⟨_, hr, hResultC.trans hr⟩, ⟨_, hResultD.trans hq, hq⟩, fun k => ?_⟩
  simp only [runSignals, hSignalsC, hSignalsD, Signal.total_append]
  exact Nat.add_left_comm _ _ _

/-- A job is put back while another one with the same hash comes in. -/
theorem independent_calls_commute_sharedHash :
    let c : Call := ⟨newYear, .retry ["a", "c"] "timeout"⟩
    let d : Call := ⟨newYear, .insert [⟨"b", "h", "org", newYear⟩]⟩
    let s := empty.run twoAttempts
    s.resultOf c = .ok (.report ⟨2, 1⟩) ∧ (s.step d).resultOf c = .ok (.report ⟨2, 1⟩) ∧
      (∃ j ∈ (s.run [d, c]).get? "a", (s.run [c, d]).get? "a" = some j ∧ j.retries = 2) ∧
      total (.moved .processing .received) (s.runSignals [d, c]) = 1 := by
  intro c d s
  have hIndependent : c.batch.Independent d.batch := by decide
  obtain ⟨hStored, ⟨r, hr, hr'⟩, _, hCounters⟩ :=
    independent_calls_commute s (c := c) (d := d) (by decide) (by decide) hIndependent
  have hResult : s.resultOf c = .ok (.report ⟨2, 1⟩) := rfl
  refine ⟨hResult, hr'.trans (hr.symm.trans hResult), ?_, ?_⟩
  · have hRequeued : ∃ j ∈ (s.run [c, d]).get? "a", j.retries = 2 := by decide
    obtain ⟨j, hj, hRetries⟩ := hRequeued
    exact ⟨j, (hStored "a").symm.trans hj, hj, hRetries⟩
  · rw [← hCounters]
    decide

end Store

end AnchorQueue
