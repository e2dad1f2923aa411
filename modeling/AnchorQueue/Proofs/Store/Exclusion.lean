import AnchorQueue.Proofs.Store.Run

/-!
# One worker at a time

A job that was handed out has left the waiting ones, and only a retry that applies to it puts it
back. So between two calls that hand out the same job there is such a retry, and consecutive claims
hand out disjoint sets of jobs.
-/

namespace AnchorQueue

open AnchorQueue.Time (Instant)

namespace Store

/-- A job is stored under the id and does not wait. -/
def Taken (s : Store) (id : String) : Prop :=
  ∃ j, s.get? id = some j ∧ j.status ≠ .received

/-- The call is a retry that applies to the job with the id. -/
def PutsBack (s : Store) (c : Call) (id : String) : Prop :=
  ∃ ids lastError j k, c.batch = .retry ids lastError ∧ id ∈ ids ∧ s.get? id = some j ∧
    j.act? (.requeue lastError) = some k ∧ (s.step c).get? id = some k

/-- The call at the position of the run hands out the job with the id. -/
def HandsOutAt (s : Store) (calls : List Call) (i : Nat) (id : String) : Prop :=
  ∃ c, calls[i]? = some c ∧ id ∈ (s.run (calls.take i)).handedOut c

/-- The call at the position of the run is a retry that applies to the job with the id. -/
def PutsBackAt (s : Store) (calls : List Call) (i : Nat) (id : String) : Prop :=
  ∃ c, calls[i]? = some c ∧ (s.run (calls.take i)).PutsBack c id

theorem Taken.not_mem_handedOut {s : Store} {id : String} (h : s.Taken id) (c : Call) :
    id ∉ s.handedOut c := by
  intro hOut
  obtain ⟨j, hj, hStatus⟩ := h
  obtain ⟨_, _, _, k, _, _, hk, hReceived, _⟩ := s.start_of_mem_handedOut hOut
  cases hj.symm.trans hk
  exact hStatus hReceived

/-- Every call but a retry that applies keeps a job taken. -/
theorem Taken.step {s : Store} {c : Call} {id : String} (h : s.Taken id)
    (hBack : ¬s.PutsBack c id) : (s.step c).Taken id := by
  obtain ⟨j, hj, hStatus⟩ := h
  have hChanges := s.changes_after c.now c.batch id
  rw [hj] at hChanges
  generalize hAfter : (s.after c.now c.batch).get? id = stored at hChanges
  cases hChanges with
  | stay => exact ⟨j, hAfter, hStatus⟩
  | @move _ k a _ hAsks hAct =>
    obtain ⟨⟨hSource, _⟩, hk⟩ := Job.act?_eq_some_iff.mp hAct
    have hTarget : k.status = a.target := by rw [← hk]
    refine ⟨k, hAfter, ?_⟩
    rw [hTarget]
    generalize hBatch : c.batch = b at hAsks
    cases hAsks with
    | start => exact absurd hSource hStatus
    | exhaust => exact absurd hSource hStatus
    | complete => simp [Action.target]
    | fail => simp [Action.target]
    -- The only action back to the waiting jobs, and here no retry applies.
    | requeue hid => exact absurd ⟨_, _, j, k, hBatch, hid, hj, hAct, hAfter⟩ hBack

/-- An accepted claim leaves none of its stored candidates waiting. -/
theorem taken_of_claim {s : Store} {now : Instant} {ids : List String} {ceiling : UInt32}
    (h : (Batch.claim ids ceiling).fault? = none) {id : String} (hid : id ∈ ids) {j : Job}
    (hj : s.get? id = some j) : (s.step ⟨now, .claim ids ceiling⟩).Taken id := by
  have hStep : (s.step ⟨now, .claim ids ceiling⟩).get? id =
      some (j.act (.ofClaim now ceiling j)) := by
    rw [Store.step, s.get?_after now h, hj]
    simp [Batch.stepOn, Batch.actionOn, hid]
  exact ⟨_, hStep, j.status_act_ofClaim_ne now ceiling⟩

theorem taken_of_mem_handedOut {s : Store} {c : Call} {id : String} (h : id ∈ s.handedOut c) :
    (s.step c).Taken id := by
  obtain ⟨now, b⟩ := c
  obtain ⟨hAccepted, ids, ceiling, j, rfl, hid, hj, _, _⟩ := s.start_of_mem_handedOut h
  exact taken_of_claim hAccepted hid hj

/-- A taken job stays taken until a retry puts it back. -/
theorem taken_or_putsBackAt {s : Store} {calls : List Call} {i : Nat} {id : String}
    (h : (s.run (calls.take i)).Taken id) {n : Nat} (hin : i ≤ n) :
    (s.run (calls.take n)).Taken id ∨ ∃ k, i ≤ k ∧ k < n ∧ s.PutsBackAt calls k id := by
  -- On the later position; a retry found on the way stays in the widened interval.
  induction hin with
  | refl => exact Or.inl h
  | @step n hin ih =>
    rcases ih with hTaken | ⟨k, hik, hkn, hBack⟩
    · cases hCall : calls[n]? with
      | none =>
        rw [List.take_add_one, hCall, Option.toList_none, List.append_nil]
        exact Or.inl hTaken
      | some c =>
        by_cases hBack : (s.run (calls.take n)).PutsBack c id
        · exact Or.inr ⟨n, hin, Nat.lt_succ_self n, c, hCall, hBack⟩
        · rw [s.run_take_succ hCall]
          exact Or.inl (hTaken.step hBack)
    · exact Or.inr ⟨k, hik, Nat.lt_succ_of_lt hkn, hBack⟩

theorem HandsOutAt.taken {s : Store} {calls : List Call} {i : Nat} {id : String}
    (h : s.HandsOutAt calls i id) : (s.run (calls.take (i + 1))).Taken id := by
  obtain ⟨c, hCall, hOut⟩ := h
  rw [s.run_take_succ hCall]
  exact taken_of_mem_handedOut hOut

theorem HandsOutAt.exists_putsBackAt {s : Store} {calls : List Call} {i n : Nat} {id : String}
    (h : s.HandsOutAt calls n id) (hTaken : (s.run (calls.take i)).Taken id) (hin : i ≤ n) :
    ∃ k, i ≤ k ∧ k < n ∧ s.PutsBackAt calls k id := by
  rcases taken_or_putsBackAt hTaken hin with hTaken | hBack
  · obtain ⟨c, _, hOut⟩ := h
    exact absurd hOut (hTaken.not_mem_handedOut c)
  · exact hBack

end Store

/-- A claim without blank candidates. -/
structure ClaimCall where
  now : Instant
  ids : List String
  ceiling : UInt32
  not_blank : ∀ id ∈ ids, Text.isBlank id = false

namespace ClaimCall

def toCall (c : ClaimCall) : Call :=
  ⟨c.now, .claim c.ids c.ceiling⟩

theorem accepted (c : ClaimCall) : (Batch.claim c.ids c.ceiling).fault? = none :=
  Batch.claim_accepted c.not_blank c.ceiling

end ClaimCall

namespace Store

variable {s : Store} {claims : List ClaimCall}

theorem not_putsBackAt_claims {i : Nat} {id : String} :
    ¬s.PutsBackAt (claims.map ClaimCall.toCall) i id := by
  rintro ⟨c, hCall, ids, lastError, _, _, hBatch, _⟩
  rw [List.getElem?_map] at hCall
  obtain ⟨d, _, rfl⟩ := Option.map_eq_some_iff.mp hCall
  cases hBatch

theorem getElem?_calls {i : Nat} {d : ClaimCall} (hd : claims[i]? = some d) :
    (claims.map ClaimCall.toCall)[i]? = some d.toCall := by
  rw [List.getElem?_map, hd, Option.map_some]

theorem get?_run_claims {id : String} (h : ∀ d ∈ claims, id ∉ d.ids) :
    (s.run (claims.map ClaimCall.toCall)).get? id = s.get? id := by
  apply s.get?_run_of_not_mem
  intro c hc
  obtain ⟨d, hd, rfl⟩ := List.mem_map.mp hc
  exact h d hd

theorem get?_run_claims_eq_none {id : String} (h : s.get? id = none) :
    (s.run (claims.map ClaimCall.toCall)).get? id = none := by
  induction claims generalizing s with
  | nil => exact h
  | cons d claims ih =>
    apply ih
    rw [ClaimCall.toCall, step, s.get?_after d.now d.accepted, h]
    rfl

theorem handsOutAt_claims_iff {i : Nat} {d : ClaimCall} (hd : claims[i]? = some d) {id : String} :
    s.HandsOutAt (claims.map ClaimCall.toCall) i id ↔ id ∈ d.ids ∧
      ∃ j, (s.run ((claims.take i).map ClaimCall.toCall)).get? id = some j ∧
        j.status = .received ∧ j.retries < d.ceiling := by
  have hCall := getElem?_calls hd
  rw [← mem_handedOut_claim_iff _ d.now d.accepted, List.map_take]
  constructor
  · rintro ⟨c, hc, hOut⟩
    cases hCall.symm.trans hc
    exact hOut
  · intro hOut
    exact ⟨d.toCall, hCall, hOut⟩

/-- Claims put nothing back, so among them a taken job is not handed out again. -/
theorem not_handsOutAt_claims_of_taken {i n : Nat} {id : String}
    (h : (s.run ((claims.map ClaimCall.toCall).take i)).Taken id) (hin : i ≤ n) :
    ¬s.HandsOutAt (claims.map ClaimCall.toCall) n id := by
  intro hn
  obtain ⟨k, _, _, hBack⟩ := hn.exists_putsBackAt h hin
  exact not_putsBackAt_claims hBack

/-- After the first of several consecutive claims that names an id, none hands it out. -/
theorem not_handsOutAt_after_named {i n : Nat} {d : ClaimCall} (hd : claims[i]? = some d)
    {id : String} (hid : id ∈ d.ids) (hFirst : ∀ e ∈ claims.take i, id ∉ e.ids) (hin : i < n) :
    ¬s.HandsOutAt (claims.map ClaimCall.toCall) n id := by
  cases hj : s.get? id with
  | none =>
    intro hn
    obtain ⟨c, hc, hOut⟩ := hn
    obtain ⟨_, _, _, j, _, _, hk, _⟩ := start_of_mem_handedOut _ hOut
    rw [← List.map_take, get?_run_claims_eq_none hj] at hk
    cases hk
  | some j =>
    have hTaken : (s.run ((claims.map ClaimCall.toCall).take (i + 1))).Taken id := by
      rw [s.run_take_succ (getElem?_calls hd), ← List.map_take]
      exact taken_of_claim d.accepted hid ((get?_run_claims hFirst).trans hj)
    exact not_handsOutAt_claims_of_taken hTaken hin

/-- In every run, between two calls that hand out the same job there is a retry that applies to it.
Of consecutive claims no two hand out the same job, and a job is handed out by the first of them
that names it, if it waits below that claim's ceiling, and otherwise by none. -/
theorem claims_exclusive (s : Store) :
    (∀ (calls : List Call) (i n : Nat) (id : String), i < n → s.HandsOutAt calls i id →
      s.HandsOutAt calls n id → ∃ k, i < k ∧ k < n ∧ s.PutsBackAt calls k id) ∧
    ∀ claims : List ClaimCall,
      (∀ (i n : Nat) (id : String), i ≠ n → s.HandsOutAt (claims.map ClaimCall.toCall) i id →
        ¬s.HandsOutAt (claims.map ClaimCall.toCall) n id) ∧
      ∀ (i : Nat) (d : ClaimCall) (id : String), claims[i]? = some d → id ∈ d.ids →
        (∀ e ∈ claims.take i, id ∉ e.ids) →
        (s.HandsOutAt (claims.map ClaimCall.toCall) i id ↔
          ∃ j, s.get? id = some j ∧ j.status = .received ∧ j.retries < d.ceiling) ∧
        ∀ n, i < n → ¬s.HandsOutAt (claims.map ClaimCall.toCall) n id := by
  refine ⟨?_, fun claims => ⟨?_, ?_⟩⟩
  · intro calls i n id hin hi hn
    obtain ⟨k, hik, hkn, hBack⟩ := hn.exists_putsBackAt hi.taken hin
    exact ⟨k, hik, hkn, hBack⟩
  · intro i n id hne hi hn
    rcases Nat.lt_or_gt_of_ne hne with hin | hni
    · exact not_handsOutAt_claims_of_taken hi.taken hin hn
    · exact not_handsOutAt_claims_of_taken hn.taken hni hi
  · intro i d id hd hid hFirst
    refine ⟨?_, fun n hin => not_handsOutAt_after_named hd hid hFirst hin⟩
    rw [handsOutAt_claims_iff hd, get?_run_claims hFirst]
    exact and_iff_right hid

theorem claims_exclusive_twoAttempts :
    empty.HandsOutAt twoAttempts 1 "a" ∧ empty.HandsOutAt twoAttempts 3 "a" ∧
      (∃ k, 1 < k ∧ k < 3 ∧ empty.PutsBackAt twoAttempts k "a") ∧
      ∃ c : ClaimCall, ∀ n, 0 < n →
        ¬(empty.run (twoAttempts.take 1)).HandsOutAt ([c, c].map ClaimCall.toCall) n "a" := by
  have hFirst : empty.HandsOutAt twoAttempts 1 "a" := ⟨_, rfl, by decide⟩
  have hSecond : empty.HandsOutAt twoAttempts 3 "a" := ⟨_, rfl, by decide⟩
  let c : ClaimCall := ⟨newYear, ["a"], 3, by decide⟩
  refine ⟨hFirst, hSecond, ?_, c, ?_⟩
  · exact (claims_exclusive empty).1 twoAttempts 1 3 "a" (by decide) hFirst hSecond
  · exact ((claims_exclusive _).2 [c, c]).2 0 c "a" rfl (by decide) (by simp) |>.2

end Store

end AnchorQueue
