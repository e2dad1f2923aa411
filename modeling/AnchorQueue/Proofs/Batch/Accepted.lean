import AnchorQueue.Proofs.Batch.Distinct

/-!
# Accepted batches

A batch is accepted when its check finds no fault. No id of an accepted batch is blank, and once
the repetitions are dropped every id stands in it once.
-/

namespace AnchorQueue.Batch

variable {α : Type}

theorem fault_eq_none_of_firstFault {key : α → String}
    {fault : List String → α → Option BatchFault} {seen : List String} {xs : List α}
    (h : firstFault key fault seen xs = none) {x : α} (hx : x ∈ xs) :
    ∃ earlier, fault earlier x = none := by
  induction xs generalizing seen with
  | nil => exact absurd hx List.not_mem_nil
  | cons y ys ih =>
    rw [firstFault] at h
    split at h
    · cases h
    · rename_i hy
      rcases List.mem_cons.mp hx with rfl | hx
      · exact ⟨seen, hy⟩
      · exact ih h hx

theorem firstFault_eq_none {key : α → String} {fault : List String → α → Option BatchFault}
    {seen : List String} {xs : List α} (h : ∀ earlier, ∀ x ∈ xs, fault earlier x = none) :
    firstFault key fault seen xs = none := by
  induction xs generalizing seen with
  | nil => rfl
  | cons x xs ih =>
    rw [firstFault, h seen x List.mem_cons_self]
    exact ih fun earlier y hy => h earlier y (List.mem_cons_of_mem x hy)

/-- A check that refuses the keys it has seen accepts only lists without repetitions. -/
theorem nodup_of_firstFault (key : α → String) {fault : List String → α → Option BatchFault}
    (hFault : ∀ seen x, fault seen x = none → key x ∉ seen) {seen : List String} {xs : List α}
    (h : firstFault key fault seen xs = none) :
    (xs.map key).Nodup ∧ ∀ x ∈ xs, key x ∉ seen := by
  induction xs generalizing seen with
  | nil => simp
  | cons x xs ih =>
    rw [firstFault] at h
    split at h
    · cases h
    · rename_i hx
      obtain ⟨hNodup, hNew⟩ := ih h
      refine ⟨?_, ?_⟩
      · rw [List.map_cons, List.nodup_cons]
        refine ⟨fun hMem => ?_, hNodup⟩
        obtain ⟨y, hy, hKey⟩ := List.mem_map.mp hMem
        exact hNew y hy (hKey ▸ List.mem_cons_self)
      · intro y hy
        rcases List.mem_cons.mp hy with rfl | hy
        · exact hFault seen y hx
        · exact fun hSeen => hNew y hy (List.mem_cons_of_mem _ hSeen)

/-- A check that accepts an item all the more if it has seen fewer keys accepts every part of an
accepted list. -/
theorem firstFault_eq_none_of_sublist (key : α → String)
    {fault : List String → α → Option BatchFault}
    (hFewer : ∀ seen seen' x, seen' ⊆ seen → fault seen x = none → fault seen' x = none)
    {xs ys : List α} (hPart : xs.Sublist ys) {seen seen' : List String} (hSeen : seen' ⊆ seen)
    (h : firstFault key fault seen ys = none) : firstFault key fault seen' xs = none := by
  induction hPart generalizing seen seen' with
  | slnil => rfl
  | cons y _ ih =>
    rw [firstFault] at h
    split at h
    · cases h
    · exact ih (List.subset_cons_of_subset (key y) hSeen) h
  | cons_cons y _ ih =>
    rw [firstFault] at h ⊢
    split at h
    · cases h
    · rename_i hy
      rw [hFewer _ _ y hSeen hy]
      exact ih (List.cons_subset_cons (key y) hSeen) h

theorem check_eq_none_iff {p : Prop} [Decidable p] {f : BatchFault} {rest : Option BatchFault} :
    (if p then some f else rest) = none ↔ ¬p ∧ rest = none := by
  by_cases hp : p <;> simp [hp]

theorem idFault_eq_none_iff {seen : List String} {k : String} :
    idFault seen k = none ↔ Text.isBlank k = false := by
  rw [idFault, check_eq_none_iff]
  simp

theorem submissionFault_eq_none_iff {seen : List String} {x : Submission} :
    submissionFault seen x = none ↔
      Text.isBlank x.requestId = false ∧ Text.isBlank x.logHash = false := by
  rw [submissionFault, check_eq_none_iff, check_eq_none_iff]
  simp

theorem anchoringFault_eq_none_iff {seen : List String} {a : Anchoring} :
    anchoringFault seen a = none ↔ Text.isBlank a.requestId = false ∧
      a.blockHeight.toNat ≤ greatestHeight ∧ a.requestId ∉ seen := by
  rw [anchoringFault, check_eq_none_iff, check_eq_none_iff, check_eq_none_iff, Nat.not_lt]
  simp

theorem failureFault_eq_none_iff {seen : List String} {f : Failure} :
    failureFault seen f = none ↔ Text.isBlank f.requestId = false ∧ f.requestId ∉ seen := by
  rw [failureFault, check_eq_none_iff, check_eq_none_iff]
  simp

theorem not_blank_of_submission {submissions : List Submission}
    (h : (insert submissions).fault? = none) {x : Submission} (hx : x ∈ submissions) :
    Text.isBlank x.requestId = false ∧ Text.isBlank x.logHash = false := by
  obtain ⟨_, hFault⟩ := fault_eq_none_of_firstFault h hx
  exact submissionFault_eq_none_iff.mp hFault

theorem height_le_of_anchoring {anchorings : List Anchoring}
    (h : (complete anchorings).fault? = none) {a : Anchoring} (ha : a ∈ anchorings) :
    a.blockHeight.toNat ≤ greatestHeight := by
  obtain ⟨_, hFault⟩ := fault_eq_none_of_firstFault h ha
  exact (anchoringFault_eq_none_iff.mp hFault).2.1

theorem claim_accepted {ids : List String} (h : ∀ k ∈ ids, Text.isBlank k = false)
    (ceiling : UInt32) : (claim ids ceiling).fault? = none :=
  firstFault_eq_none fun _ k hk => idFault_eq_none_iff.mpr (h k hk)

theorem operation_normalize (b : Batch) : b.normalize.operation = b.operation := by
  cases b <;> rfl

theorem nodup_requestIds_normalize {b : Batch} (h : b.fault? = none) :
    b.normalize.requestIds.Nodup := by
  cases b with
  | insert submissions => exact nodup_keys_distinct _ submissions
  | claim ids ceiling => exact nodup_distinct_ids ids
  | complete anchorings =>
    exact (nodup_of_firstFault Anchoring.requestId
      (fun _ _ ha => (anchoringFault_eq_none_iff.mp ha).2.2) h).1
  | fail failures =>
    exact (nodup_of_firstFault Failure.requestId
      (fun _ _ hf => (failureFault_eq_none_iff.mp hf).2) h).1
  | retry ids lastError => exact nodup_distinct_ids ids

end AnchorQueue.Batch
