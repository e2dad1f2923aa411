import AnchorQueue.Proofs.Store.FirstWrite
import AnchorQueue.Proofs.Store.Search

/-!
# The answer to a hash stays

A search by hash looks at all stored jobs anew. But no call rewrites the time at which a job was
stored, and while the clock rises, what comes in later is stored later. So the first call that
brings in a hash decides the search for all time: it finds the least id that this call gave the
hash.
-/

namespace AnchorQueue

open AnchorQueue.Time (Instant)

/-- The clock rises from each call with accepted submissions to the next. Other calls do not count:
what they read from the clock is not the time of storing of any job. -/
def ClockRises (calls : List Call) : Prop :=
  calls.Pairwise fun c d => c.submitted ≠ [] → d.submitted ≠ [] → c.now < d.now

instance (calls : List Call) : Decidable (ClockRises calls) :=
  inferInstanceAs (Decidable (calls.Pairwise _))

theorem Call.now_of_mem_submitted {c : Call} {w : Instant × Submission} (h : w ∈ c.submitted) :
    w.1 = c.now := by
  rw [submitted] at h
  split at h
  · split at h
    · obtain ⟨x, _, rfl⟩ := List.mem_map.mp h
      rfl
    · exact absurd h List.not_mem_nil
  · exact absurd h List.not_mem_nil

theorem Call.operation_of_submitted_ne_nil {c : Call} (h : c.submitted ≠ []) :
    c.batch.operation = .insert := by
  obtain ⟨now, b⟩ := c
  cases b with
  | insert submissions => rfl
  | claim | complete | fail | retry => exact absurd rfl h

namespace Store

variable {s : Store} {hash : String} {j k : Job}

def Holds (s : Store) (hash : String) : Prop :=
  ∃ id j, s.get? id = some j ∧ j.logHash = hash

/-- The call is an insert that stores a job with the hash under the id, which had none. -/
def Creates (s : Store) (c : Call) (hash id : String) : Prop :=
  c.batch.operation = .insert ∧ s.get? id = none ∧
    ∃ j, (s.step c).get? id = some j ∧ j.logHash = hash

/-- The call at the position of the run is an insert that stores a job with the hash under the
id. -/
def CreatesAt (s : Store) (calls : List Call) (i : Nat) (hash id : String) : Prop :=
  ∃ c, calls[i]? = some c ∧ (s.run (calls.take i)).Creates c hash id

theorem origin_step_cases (s : Store) (c : Call) {id : String} (h : (s.step c).get? id = some k) :
    (∃ j, s.get? id = some j ∧ j.origin = k.origin) ∨
      s.get? id = none ∧ c.submitted ≠ [] ∧ k.storedAt = c.now := by
  have hStep := s.origin_step c id
  rw [h, Option.map_some] at hStep
  cases hj : s.get? id with
  | some j =>
    rw [hj, Option.map_some, Option.some_or] at hStep
    exact Or.inl ⟨j, rfl, (Option.some.inj hStep).symm⟩
  | none =>
    rw [hj, Option.map_none, Option.none_or] at hStep
    obtain ⟨w, hw, hOrigin⟩ := Option.map_eq_some_iff.mp hStep.symm
    have hMem : w ∈ c.submitted := List.mem_of_find?_eq_some hw
    have hStoredAt : w.1 = k.storedAt := congrArg Job.Origin.storedAt hOrigin
    exact Or.inr ⟨rfl, List.ne_nil_of_mem hMem,
      hStoredAt.symm.trans (Call.now_of_mem_submitted hMem)⟩

theorem storedAt_lt_of_rises {calls later : List Call} {c : Call}
    (hRises : ClockRises (calls ++ c :: later)) (hc : c.submitted ≠ []) {id : String}
    (hj : (empty.run calls).get? id = some j) : j.storedAt < c.now := by
  have hRun := empty.origin_run calls id
  rw [hj, get?_empty, Option.map_none, Option.none_or] at hRun
  obtain ⟨w, hw, hOrigin⟩ := Option.map_eq_some_iff.mp hRun.symm
  obtain ⟨d, hd, hMem⟩ := List.mem_flatMap.mp (List.mem_of_find?_eq_some hw)
  have hStoredAt : w.1 = j.storedAt := congrArg Job.Origin.storedAt hOrigin
  rw [← hStoredAt, Call.now_of_mem_submitted hMem]
  exact (List.pairwise_append.mp hRises).2.2 d hd c List.mem_cons_self (List.ne_nil_of_mem hMem) hc

theorem FirstWith.step (h : s.FirstWith hash j) (hs : s.Sound) {c : Call}
    (hLater : c.submitted ≠ [] → j.storedAt < c.now) :
    ∃ k, (s.step c).FirstWith hash k ∧ k.requestId = j.requestId := by
  obtain ⟨k, hk, hOrigin, _⟩ := hs.exists_progress_run h.stored [c]
  have hId : k.requestId = j.requestId := (hs.step c _ k hk).key
  have hStoredAt : k.storedAt = j.storedAt := congrArg Job.Origin.storedAt hOrigin
  have hHash : k.logHash = j.logHash := congrArg Job.Origin.logHash hOrigin
  refine ⟨k, ⟨by rwa [hId], hHash.trans h.logHash_eq, ?_⟩, hId⟩
  intro id m hm hm' hNe
  -- A job from before keeps its place behind `j`, a new one is stored after `j`.
  rcases s.origin_step_cases c hm with ⟨m₀, hm₀, hSame⟩ | ⟨_, hNew, hNow⟩
  · have hNe₀ : m₀ ≠ j := by
      rintro rfl
      rw [← (hs id m₀ hm₀).key] at hm
      exact hNe (Option.some.inj (hm.symm.trans hk))
    have hFirst := h.first id m₀ hm₀ ((congrArg Job.Origin.logHash hSame).trans hm') hNe₀
    have hStoredAt' : m₀.storedAt = m.storedAt := congrArg Job.Origin.storedAt hSame
    rwa [hStoredAt', (hs id m₀ hm₀).key, ← (hs.step c id m hm).key, ← hStoredAt, ← hId] at hFirst
  · rw [hStoredAt, hNow]
    exact Or.inl (hLater hNew)

/-- While the clock rises, no later call takes the place of the first job with a hash. -/
theorem FirstWith.run {calls later : List Call} (hRises : ClockRises (calls ++ later))
    (h : (empty.run calls).FirstWith hash j) :
    ∃ k, (empty.run (calls ++ later)).FirstWith hash k ∧ k.requestId = j.requestId := by
  induction later generalizing calls j with
  | nil => exact ⟨j, by rwa [List.append_nil], rfl⟩
  | cons c later ih =>
    obtain ⟨k, hk, hId⟩ := h.step (sound_empty.run calls)
      fun hc => storedAt_lt_of_rises hRises hc h.stored
    rw [List.append_cons] at hRises ⊢
    obtain ⟨m, hm, hId'⟩ := ih hRises (by rwa [run_append])
    exact ⟨m, hm, hId'.trans hId⟩

theorem exists_first_holds {calls : List Call} (hNot : ¬s.Holds hash)
    (h : (s.run calls).Holds hash) :
    ∃ i c, calls[i]? = some c ∧ (s.run (calls.take (i + 1))).Holds hash ∧
      ∀ n ≤ i, ¬(s.run (calls.take n)).Holds hash := by
  induction calls generalizing s with
  | nil => exact absurd h hNot
  | cons c calls ih =>
    by_cases hStep : (s.step c).Holds hash
    · refine ⟨0, c, rfl, hStep, fun n hn => ?_⟩
      rwa [Nat.le_zero.mp hn]
    · obtain ⟨i, d, hd, hHolds, hBefore⟩ := ih hStep h
      refine ⟨i + 1, d, hd, hHolds, fun n hn => ?_⟩
      cases n with
      | zero => exact hNot
      | succ n => exact hBefore n (Nat.le_of_succ_le_succ hn)

theorem not_holds_empty : ¬empty.Holds hash := by
  rintro ⟨id, j, hj, _⟩
  rw [get?_empty] at hj
  cases hj

theorem creates_of_not_holds (hNot : ¬s.Holds hash) {c : Call} {id : String}
    (hk : (s.step c).get? id = some k) (hHash : k.logHash = hash) :
    s.Creates c hash id ∧ k.storedAt = c.now := by
  rcases s.origin_step_cases c hk with ⟨j, hj, hOrigin⟩ | ⟨hNone, hNew, hNow⟩
  · exact absurd ⟨id, j, hj, (congrArg Job.Origin.logHash hOrigin).trans hHash⟩ hNot
  · exact ⟨⟨Call.operation_of_submitted_ne_nil hNew, hNone, k, hk, hHash⟩, hNow⟩

/-- Jobs of one call are stored at one time, so among them the id decides. -/
theorem FirstWith.least_of_not_holds {c : Call} (h : (s.step c).FirstWith hash j) (hs : s.Sound)
    (hNot : ¬s.Holds hash) :
    s.Creates c hash j.requestId ∧ ∀ id, s.Creates c hash id → j.requestId ≤ id := by
  obtain ⟨hCreates, hNow⟩ := creates_of_not_holds hNot h.stored h.logHash_eq
  refine ⟨hCreates, ?_⟩
  rintro id ⟨_, _, k, hk, hHash⟩
  obtain ⟨_, hNow'⟩ := creates_of_not_holds hNot hk hHash
  rw [← (hs.step c id k hk).key]
  by_cases hSame : k = j
  · subst hSame
    exact String.le_refl k.requestId
  · rcases h.first id k hk hHash hSame with hTime | ⟨_, hId⟩
    · rw [hNow, hNow'] at hTime
      exact absurd hTime (Int.lt_irrefl _)
    · exact String.not_lt.mp (String.lt_asymm hId)

/-- While the clock rises, a hash that can be found is found under one id for ever: the least of
those that the first insert with the hash brought in. -/
theorem hash_answer_stable {calls : List Call} (hRises : ClockRises calls)
    (h : (empty.run calls).find (.logHash hash) = .ok j) :
    (∃ i, (∀ n < i, ∀ id, ¬empty.CreatesAt calls n hash id) ∧
      empty.CreatesAt calls i hash j.requestId ∧
      ∀ id, empty.CreatesAt calls i hash id → j.requestId ≤ id) ∧
    ∀ later, ClockRises (calls ++ later) →
      ∃ k, (empty.run (calls ++ later)).find (.logHash hash) = .ok k ∧
        k.requestId = j.requestId := by
  have hFirst := (sound_empty.run calls).find?_logHash_eq_some_iff.mp (find_eq_ok_iff.mp h)
  refine ⟨?_, fun later hRises' => ?_⟩
  · obtain ⟨i, c, hc, ⟨id, m, hm, hHash⟩, hBefore⟩ :=
      exists_first_holds not_holds_empty ⟨j.requestId, j, hFirst.stored, hFirst.logHash_eq⟩
    obtain ⟨k, hk⟩ := (sound_empty.run _).exists_firstWith hm hHash
    -- The first job right after that call is still the first at the end of the run.
    have hId : j.requestId = k.requestId := by
      rw [← List.take_append_drop (i + 1) calls] at hRises hFirst
      obtain ⟨k', hk', hId⟩ := hk.run hRises
      rw [hFirst.unique hk', hId]
    rw [empty.run_take_succ hc] at hk
    obtain ⟨hCreates, hLeast⟩ :=
      hk.least_of_not_holds (sound_empty.run _) (hBefore i (Nat.le_refl i))
    rw [hId]
    refine ⟨i, ?_, ⟨c, hc, hCreates⟩, ?_⟩
    · rintro n hn id ⟨d, hd, _, _, m, hm, hHash⟩
      apply hBefore (n + 1) hn
      rw [empty.run_take_succ hd]
      exact ⟨id, m, hm, hHash⟩
    · rintro id ⟨d, hd, hCreates'⟩
      cases hc.symm.trans hd
      exact hLeast id hCreates'
  · obtain ⟨k, hk, hId⟩ := hFirst.run hRises'
    have hFind := (sound_empty.run (calls ++ later)).find?_logHash_eq_some_iff.mpr hk
    exact ⟨k, find_eq_ok_iff.mpr hFind, hId⟩

/-- A smaller id that comes later does not take over. -/
theorem hash_answer_stable_smallerIdLater :
    let calls : List Call :=
      [⟨newYear, .insert [⟨"c", "h", "org", newYear⟩, ⟨"b", "h", "org", newYear⟩]⟩]
    let later : List Call :=
      [⟨newYear, .claim ["b"] 3⟩, ⟨newYearLater, .insert [⟨"a", "h", "org-a", newYear⟩]⟩]
    ClockRises calls ∧ ClockRises (calls ++ later) ∧ empty.CreatesAt calls 0 "h" "b" ∧
      (∃ j, (empty.run calls).find (.logHash "h") = .ok j ∧ j.requestId = "b") ∧
      ∃ k, (empty.run (calls ++ later)).find (.logHash "h") = .ok k ∧ k.requestId = "b" := by
  intro calls later
  have hRises : ClockRises calls := by decide
  have hRises' : ClockRises (calls ++ later) := by decide
  obtain ⟨j, hj, hId⟩ : ∃ j, (empty.run calls).find (.logHash "h") = .ok j ∧ j.requestId = "b" :=
    ⟨_, rfl, rfl⟩
  obtain ⟨⟨i, _, ⟨c, hc, hCreates⟩, _⟩, hStays⟩ := hash_answer_stable hRises hj
  obtain ⟨k, hk, hId'⟩ := hStays later hRises'
  have hi : i = 0 := by
    have hBound := (List.getElem?_eq_some_iff.mp hc).1
    exact Nat.lt_one_iff.mp hBound
  subst hi
  exact ⟨hRises, hRises', ⟨c, hc, hId ▸ hCreates⟩, ⟨j, hj, hId⟩, k, hk, hId'.trans hId⟩

end Store

end AnchorQueue
