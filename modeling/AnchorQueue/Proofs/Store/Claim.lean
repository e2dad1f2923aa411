import AnchorQueue.Proofs.Store.Advance

/-!
# The two parts of a claim

A claim splits its waiting candidates by the ceiling. No id is in both parts, so the claim is one
list of actions under distinct ids, and the jobs it hands out are those of the second part.
-/

namespace AnchorQueue

open AnchorQueue.Time (Instant)

/-- What a claim does to a stored job. -/
def Action.ofClaim (now : Instant) (ceiling : UInt32) (j : Job) : Action :=
  if ceiling ≤ j.retries then exhaust ceiling now else start now

theorem Action.ofClaim_of_lt {now : Instant} {ceiling : UInt32} {j : Job}
    (h : j.retries < ceiling) : ofClaim now ceiling j = start now :=
  if_neg (UInt32.not_le.mpr h)

theorem Action.source_ofClaim (now : Instant) (ceiling : UInt32) (j : Job) :
    (ofClaim now ceiling j).source = .received := by
  rw [ofClaim]
  split <;> rfl

theorem Action.admits_ofClaim (now : Instant) (ceiling : UInt32) (j : Job) :
    (ofClaim now ceiling j).admits j = true := by
  rw [ofClaim]
  split
  · rename_i hCeiling
    exact decide_eq_true hCeiling
  · rfl

theorem Job.status_act_ofClaim_ne (now : Instant) (ceiling : UInt32) (j : Job) :
    (j.act (.ofClaim now ceiling j)).status ≠ .received := by
  rw [← Action.source_ofClaim now ceiling j]
  exact status_act_ne (Action.admits_ofClaim now ceiling j)

namespace Store

theorem mem_waiting_iff (s : Store) {ids : List String} {id : String} {n : UInt32} :
    (id, n) ∈ s.waiting ids ↔
      id ∈ ids ∧ ∃ j, s.get? id = some j ∧ j.status = .received ∧ j.retries = n := by
  rw [waiting, List.mem_filterMap]
  constructor
  · rintro ⟨k, hk, h⟩
    split at h
    · rename_i j hj
      split at h
      · rename_i hStatus
        cases h
        exact ⟨hk, j, hj, hStatus, rfl⟩
      · cases h
    · cases h
  · rintro ⟨hid, j, hj, hStatus, rfl⟩
    exact ⟨id, hid, by simp [hj, hStatus]⟩

theorem keys_waiting_sublist (s : Store) (ids : List String) :
    ((s.waiting ids).map Prod.fst).Sublist ids := by
  induction ids with
  | nil => exact List.Sublist.refl _
  | cons k ids ih =>
    rw [waiting, List.filterMap_cons]
    split
    · exact ih.cons k
    · rename_i entry hEntry
      have hKey : entry.1 = k := by
        split at hEntry
        · split at hEntry
          · cases hEntry
            rfl
          · cases hEntry
        · cases hEntry
      rw [List.map_cons, hKey]
      exact ih.cons_cons k

theorem mem_keys_filter_waiting_iff (s : Store) {ids : List String}
    {p : String × UInt32 → Bool} {id : String} :
    id ∈ ((s.waiting ids).filter p).map Prod.fst ↔
      id ∈ ids ∧ ∃ j, s.get? id = some j ∧ j.status = .received ∧ p (id, j.retries) = true := by
  rw [List.mem_map]
  constructor
  · rintro ⟨⟨k, n⟩, hMem, rfl⟩
    obtain ⟨hWaiting, hp⟩ := List.mem_filter.mp hMem
    obtain ⟨hid, j, hj, hStatus, rfl⟩ := s.mem_waiting_iff.mp hWaiting
    exact ⟨hid, j, hj, hStatus, hp⟩
  · rintro ⟨hid, j, hj, hStatus, hp⟩
    have hWaiting := s.mem_waiting_iff.mpr ⟨hid, j, hj, hStatus, rfl⟩
    exact ⟨(id, j.retries), List.mem_filter.mpr ⟨hWaiting, hp⟩, rfl⟩

theorem mem_exhausted_iff (s : Store) {ids : List String} {ceiling : UInt32} {id : String} :
    id ∈ (ClaimPlan.ofLocked ceiling (s.waiting ids)).exhausted ↔
      id ∈ ids ∧ ∃ j, s.get? id = some j ∧ j.status = .received ∧ ceiling ≤ j.retries := by
  simp only [ClaimPlan.ofLocked, mem_keys_filter_waiting_iff, ClaimPlan.isExhausted,
    decide_eq_true_eq]

theorem mem_claimable_iff (s : Store) {ids : List String} {ceiling : UInt32} {id : String} :
    id ∈ (ClaimPlan.ofLocked ceiling (s.waiting ids)).claimable ↔
      id ∈ ids ∧ ∃ j, s.get? id = some j ∧ j.status = .received ∧ j.retries < ceiling := by
  simp only [ClaimPlan.ofLocked, mem_keys_filter_waiting_iff, ClaimPlan.isExhausted,
    Bool.not_eq_true', decide_eq_false_iff_not, UInt32.not_le]

/-- An id in both parts would have its retries on both sides of the ceiling. -/
theorem not_mem_exhausted_of_mem_claimable (s : Store) {ids : List String} {ceiling : UInt32}
    {id : String} (h : id ∈ (ClaimPlan.ofLocked ceiling (s.waiting ids)).claimable) :
    id ∉ (ClaimPlan.ofLocked ceiling (s.waiting ids)).exhausted := by
  intro hExhausted
  obtain ⟨_, j, hj, _, hBelow⟩ := s.mem_claimable_iff.mp h
  obtain ⟨_, k, hk, _, hCeiling⟩ := s.mem_exhausted_iff.mp hExhausted
  cases hj.symm.trans hk
  exact UInt32.not_le.mpr hBelow hCeiling

theorem nodup_keys_filter_waiting (s : Store) {ids : List String} (p : String × UInt32 → Bool)
    (h : ids.Nodup) : (((s.waiting ids).filter p).map Prod.fst).Nodup :=
  (h.sublist (s.keys_waiting_sublist ids)).sublist (List.filter_sublist.map Prod.fst)

/-- The actions of a claim: first those that fail jobs, then those that start jobs. -/
def claimActions (s : Store) (now : Instant) (ids : List String) (ceiling : UInt32) :
    List (String × Action) :=
  let plan := ClaimPlan.ofLocked ceiling (s.waiting ids)
  (plan.exhausted.map fun id => (id, .exhaust ceiling now)) ++
    plan.claimable.map fun id => (id, .start now)

theorem nodup_keys_claimActions (s : Store) (now : Instant) {ids : List String} (ceiling : UInt32)
    (h : ids.Nodup) : ((s.claimActions now ids ceiling).map Prod.fst).Nodup := by
  rw [claimActions, List.map_append, keys_map_const, keys_map_const]
  refine List.nodup_append.mpr
    ⟨s.nodup_keys_filter_waiting _ h, s.nodup_keys_filter_waiting _ h, ?_⟩
  intro x hx y hy hxy
  exact s.not_mem_exhausted_of_mem_claimable hy (hxy ▸ hx)

theorem claim_store (s : Store) (now : Instant) (ids : List String) (ceiling : UInt32) :
    (s.claim now ids ceiling).store = (s.advance (s.claimActions now ids ceiling)).1 := by
  rw [claimActions, advance_append]
  rfl

theorem lookup_claimActions (s : Store) (now : Instant) (ids : List String) (ceiling : UInt32)
    {id : String} {j : Job} (hj : s.get? id = some j) :
    (s.claimActions now ids ceiling).lookup id =
      if id ∈ ids ∧ j.status = .received then some (Action.ofClaim now ceiling j) else none := by
  rw [claimActions, List.lookup_append, lookup_map_const, lookup_map_const]
  simp only [mem_exhausted_iff, mem_claimable_iff, hj, Option.some.injEq, exists_eq_left']
  by_cases hid : id ∈ ids
  · by_cases hStatus : j.status = .received
    · by_cases hCeiling : ceiling ≤ j.retries
      · simp [hid, hStatus, hCeiling, Action.ofClaim]
      · simp [hid, hStatus, hCeiling, UInt32.not_le.mp hCeiling, Action.ofClaim]
    · simp [hStatus]
  · simp [hid]

def claimed (s : Store) (now : Instant) (ids : List String) (ceiling : UInt32) :
    List (String × Job) :=
  let plan := ClaimPlan.ofLocked ceiling (s.waiting ids)
  ((s.advance (plan.exhausted.map fun id => (id, .exhaust ceiling now))).1.advance
    (plan.claimable.map fun id => (id, .start now))).2

theorem mem_claimed_iff (s : Store) (now : Instant) {ids : List String} (ceiling : UInt32)
    (h : ids.Nodup) {id : String} {k : Job} :
    (id, k) ∈ s.claimed now ids ceiling ↔
      id ∈ ids ∧ ∃ j, s.get? id = some j ∧ j.status = .received ∧ j.retries < ceiling ∧
        { j with status := .processing, startedAt := some now } = k := by
  have hKeys : (((ClaimPlan.ofLocked ceiling (s.waiting ids)).claimable.map fun id =>
      (id, Action.start now)).map Prod.fst).Nodup := by
    rw [keys_map_const]
    exact s.nodup_keys_filter_waiting _ h
  rw [claimed, mem_advance_iff _ hKeys, lookup_map_const]
  constructor
  · rintro ⟨a, ha, hAct⟩
    split at ha
    · rename_i hMem
      cases ha
      -- The jobs at the ceiling fail first, which does not touch a job below it.
      have hNot := s.not_mem_exhausted_of_mem_claimable hMem
      rw [get?_advance_of_not_mem s (by rwa [keys_map_const])] at hAct
      obtain ⟨hid, j, hj, hStatus, hBelow⟩ := s.mem_claimable_iff.mp hMem
      rw [hj, Option.bind_some, Job.act?_eq_some_iff] at hAct
      exact ⟨hid, j, hj, hStatus, hBelow, hAct.2⟩
    · cases ha
  · rintro ⟨hid, j, hj, hStatus, hBelow, rfl⟩
    have hMem := s.mem_claimable_iff.mpr ⟨hid, j, hj, hStatus, hBelow⟩
    have hNot := s.not_mem_exhausted_of_mem_claimable hMem
    refine ⟨.start now, by simp [hMem], ?_⟩
    rw [get?_advance_of_not_mem s (by rwa [keys_map_const]), hj, Option.bind_some,
      Job.act?_eq_some_iff]
    exact ⟨⟨hStatus, rfl⟩, rfl⟩

theorem nodup_keys_claimed (s : Store) (now : Instant) {ids : List String} (ceiling : UInt32)
    (h : ids.Nodup) : ((s.claimed now ids ceiling).map Prod.fst).Nodup := by
  refine List.Nodup.sublist (keys_advance_sublist _ _) ?_
  rw [keys_map_const]
  exact s.nodup_keys_filter_waiting _ h

end Store

end AnchorQueue
