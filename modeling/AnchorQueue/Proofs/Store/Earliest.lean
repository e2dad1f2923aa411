import AnchorQueue.Store.Basic

/-!
# The earliest of several jobs

Jobs come in the order in which they were stored, and jobs stored at one time in the order of their
ids. A search by hash finds the first of them: no job with the hash precedes it, and only one job
can be like that.
-/

namespace AnchorQueue

open AnchorQueue.Time (Instant)

namespace Store

variable {a b c : Job}

theorem precedes_iff : precedes a b = true ↔ a.storedAt < b.storedAt ∨
    a.storedAt = b.storedAt ∧ a.requestId < b.requestId := by
  simp [precedes]

theorem precedes_iff_rank : precedes a b = true ↔ a.storedAt.rank < b.storedAt.rank ∨
    a.storedAt.rank = b.storedAt.rank ∧ a.requestId < b.requestId := by
  have hRank : a.storedAt = b.storedAt ↔ a.storedAt.rank = b.storedAt.rank :=
    ⟨congrArg Instant.rank, Instant.rank_injective⟩
  rw [precedes_iff, Instant.lt_def, hRank]

theorem precedes_asymm (h : precedes a b = true) : ¬precedes b a = true := by
  rw [precedes_iff_rank] at h ⊢
  rintro (hTime | ⟨hTime, hId⟩)
  · omega
  · rcases h with hTime' | ⟨_, hId'⟩
    · omega
    · exact String.lt_asymm hId hId'

theorem precedes_of_not_precedes (h : precedes a b = true) (hNot : ¬precedes c b = true) :
    precedes a c = true := by
  rw [precedes_iff_rank] at h hNot ⊢
  rw [not_or, not_and] at hNot
  obtain ⟨hTime, hSame⟩ := hNot
  rcases Int.lt_or_le a.storedAt.rank c.storedAt.rank with hLess | hLe
  · exact Or.inl hLess
  · -- All three were stored at one time, so the ids decide.
    rcases h with hTime' | ⟨hTime', hId⟩
    · omega
    · have hFirst : ¬c.requestId < b.requestId := hSame (by omega)
      refine Or.inr ⟨by omega, ?_⟩
      by_cases hac : a.requestId < c.requestId
      · exact hac
      · have hba := String.le_trans (String.not_lt.mp hFirst) (String.not_lt.mp hac)
        exact absurd hId (String.not_lt.mpr hba)

theorem requestId_eq_of_not_precedes (h : ¬precedes a b = true) (h' : ¬precedes b a = true) :
    a.requestId = b.requestId := by
  rw [precedes_iff_rank, not_or, not_and] at h h'
  have hab : ¬a.requestId < b.requestId := h.2 (by omega)
  have hba : ¬b.requestId < a.requestId := h'.2 (by omega)
  exact String.le_antisymm (String.not_lt.mp hba) (String.not_lt.mp hab)

theorem earliest_eq_none_iff {jobs : List Job} : earliest jobs = none ↔ jobs = [] := by
  cases jobs with
  | nil => simp [earliest]
  | cons j jobs =>
    rw [earliest]
    split
    · split <;> simp
    · simp

theorem earliest_spec {jobs : List Job} {j : Job} (h : earliest jobs = some j) :
    j ∈ jobs ∧ ∀ k ∈ jobs, ¬precedes k j = true := by
  induction jobs generalizing j with
  | nil => cases h
  | cons first jobs ih =>
    have hSelf : ¬precedes first first = true := fun hSame => precedes_asymm hSame hSame
    rw [earliest] at h
    split at h
    · rename_i k hk
      obtain ⟨hMem, hFirst⟩ := ih hk
      split at h
      · rename_i hPrecedes
        cases h
        refine ⟨List.mem_cons_of_mem first hMem, fun i hi => ?_⟩
        rcases List.mem_cons.mp hi with rfl | hi
        · exact precedes_asymm hPrecedes
        · exact hFirst i hi
      · rename_i hNot
        cases h
        refine ⟨List.mem_cons_self, fun i hi => ?_⟩
        rcases List.mem_cons.mp hi with rfl | hi
        · exact hSelf
        · exact fun hi' => hFirst i hi (precedes_of_not_precedes hi' hNot)
    · rename_i hNone
      cases h
      cases earliest_eq_none_iff.mp hNone
      refine ⟨List.mem_cons_self, fun i hi => ?_⟩
      cases List.mem_singleton.mp hi
      exact hSelf

theorem mem_values_iff (s : Store) {j : Job} : j ∈ s.jobs.values ↔ ∃ id, s.get? id = some j := by
  rw [Roster.values, List.mem_map]
  constructor
  · rintro ⟨⟨id, j⟩, hEntry, rfl⟩
    exact ⟨id, (Roster.get?_eq_some_iff _).mpr hEntry⟩
  · rintro ⟨id, hj⟩
    exact ⟨(id, j), (Roster.get?_eq_some_iff _).mp hj, rfl⟩

theorem mem_withHash_iff (s : Store) {hash : String} {j : Job} :
    (j ∈ s.jobs.values.filter fun j => j.logHash = hash) ↔
      (∃ id, s.get? id = some j) ∧ j.logHash = hash := by
  rw [List.mem_filter, mem_values_iff, decide_eq_true_eq]

theorem find?_logHash_eq_none_iff (s : Store) {hash : String} :
    s.find? (.logHash hash) = none ↔ ∀ id j, s.get? id = some j → j.logHash ≠ hash := by
  rw [find?, earliest_eq_none_iff, List.eq_nil_iff_forall_not_mem]
  simp only [mem_withHash_iff]
  constructor
  · intro h id j hj hHash
    exact h j ⟨⟨id, hj⟩, hHash⟩
  · rintro h j ⟨⟨id, hj⟩, hHash⟩
    exact h id j hj hHash

theorem find?_logHash_spec {s : Store} {hash : String} {j : Job}
    (h : s.find? (.logHash hash) = some j) : (∃ id, s.get? id = some j) ∧ j.logHash = hash ∧
      ∀ id k, s.get? id = some k → k.logHash = hash → ¬precedes k j = true := by
  obtain ⟨hMem, hFirst⟩ := earliest_spec h
  obtain ⟨hStored, hHash⟩ := s.mem_withHash_iff.mp hMem
  refine ⟨hStored, hHash, fun id k hk hHash' => ?_⟩
  exact hFirst k (s.mem_withHash_iff.mpr ⟨⟨id, hk⟩, hHash'⟩)

end Store

end AnchorQueue
