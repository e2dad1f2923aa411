import AnchorQueue.Proofs.Batch.Faults
import AnchorQueue.Proofs.Store.Run
import Mathlib.Data.List.Basic

/-!
# Repetitions are dropped

An accepted batch is acted on with the first item of every id, in the order in which the ids first
came. Dropping repetitions twice is dropping them once, and from two lists in a row they can be
dropped one list after the other.
-/

namespace AnchorQueue.Batch

open Text (Blank)

variable {α : Type}

/-- The batch is accepted, and acted on as the other one. -/
def ActedOnAs (b kept : Batch) : Prop :=
  b.fault? = none ∧ b.normalize = kept

/-- The first item of every key and nothing else, in the order in which the keys first come. -/
structure FirstOfEach (key : α → String) (xs kept : List α) : Prop where
  sublist : kept.Sublist xs
  first : ∀ k, (kept.filter fun x => key x = k) = (xs.find? fun x => key x = k).toList
  ordered : (kept.map key).Pairwise fun k k' => (xs.map key).idxOf k < (xs.map key).idxOf k'

section

variable {key : α → String}

/-- Of the keys seen before it only matters which they are. -/
theorem distinctFrom_congr {seen seen' : List String} (h : ∀ k, k ∈ seen ↔ k ∈ seen')
    (xs : List α) : distinctFrom key seen xs = distinctFrom key seen' xs := by
  induction xs generalizing seen seen' with
  | nil => rfl
  | cons x xs ih =>
    have hMore : ∀ k, k ∈ key x :: seen ↔ k ∈ key x :: seen' := by simp [h]
    simp only [distinctFrom, h, ih h, ih hMore]

/-- Keys that have been seen all along are missing in the end. -/
theorem distinctFrom_append_seen (late seen : List String) (xs : List α) :
    distinctFrom key (late ++ seen) xs =
      (distinctFrom key seen xs).filter fun x => key x ∉ late := by
  induction xs generalizing seen with
  | nil => rfl
  | cons x xs ih =>
    have hSwap : ∀ k, k ∈ key x :: (late ++ seen) ↔ k ∈ late ++ (key x :: seen) := by
      intro k
      simp only [List.mem_cons, List.mem_append]
      exact or_left_comm
    rw [distinctFrom, distinctFrom]
    by_cases hSeen : key x ∈ seen
    · rw [if_pos hSeen, if_pos (List.mem_append_right late hSeen), ih]
    rw [if_neg hSeen]
    by_cases hLate : key x ∈ late
    · -- The item is dropped later instead, and with it nothing that would not go anyway.
      have hSame : ∀ k, k ∈ late ++ seen ↔ k ∈ late ++ (key x :: seen) := by
        intro k
        rw [← hSwap, List.mem_cons, iff_or_self]
        rintro rfl
        exact List.mem_append_left seen hLate
      rw [if_pos (List.mem_append_left seen hLate), distinctFrom_congr hSame, ih,
        List.filter_cons_of_neg (by simpa using hLate)]
    · rw [if_neg (by simp [hSeen, hLate]), distinctFrom_congr hSwap, ih,
        List.filter_cons_of_pos (by simpa using hLate)]

/-- The first item stays, and with it nothing more under its key. -/
theorem distinct_cons (key : α → String) (x : α) (xs : List α) :
    distinct key (x :: xs) = x :: (distinct key xs).filter fun y => key y ≠ key x := by
  have hRest : distinctFrom key [key x] xs =
      (distinct key xs).filter fun y => key y ∉ [key x] := distinctFrom_append_seen [key x] [] xs
  rw [distinct, distinctFrom, if_neg List.not_mem_nil, hRest]
  simp only [List.mem_singleton]

theorem distinct_append (key : α → String) (xs ys : List α) : distinct key (xs ++ ys) =
    distinct key xs ++ (distinct key ys).filter fun y => key y ∉ xs.map key := by
  induction xs with
  | nil => simp [distinct, distinctFrom]
  | cons x xs ih =>
    simp only [List.cons_append, distinct_cons, ih, List.filter_append, List.filter_filter,
      List.map_cons, List.mem_cons, not_or, Bool.decide_and, ne_eq]

theorem distinct_eq_self {xs : List α} (h : (xs.map key).Nodup) : distinct key xs = xs := by
  induction xs with
  | nil => rfl
  | cons x xs ih =>
    obtain ⟨hx, hRest⟩ := List.nodup_cons.mp h
    rw [distinct_cons, ih hRest, List.filter_eq_self.mpr]
    intro y hy
    rw [decide_eq_true_eq]
    intro hKey
    exact hx (hKey ▸ List.mem_map_of_mem hy)

theorem distinct_distinct (key : α → String) (xs : List α) :
    distinct key (distinct key xs) = distinct key xs :=
  distinct_eq_self (nodup_keys_distinct key xs)

/-- What is kept of the later items comes after the item in front, which has another key. -/
theorem ordered_distinct (key : α → String) (xs : List α) :
    ((distinct key xs).map key).Pairwise fun k k' =>
      (xs.map key).idxOf k < (xs.map key).idxOf k' := by
  induction xs with
  | nil => exact List.Pairwise.nil
  | cons x xs ih =>
    have hLater : ∀ k ∈ ((distinct key xs).filter fun y => key y ≠ key x).map key, key x ≠ k := by
      rintro k hk rfl
      obtain ⟨y, hy, hKey⟩ := List.mem_map.mp hk
      exact of_decide_eq_true (List.mem_filter.mp hy).2 hKey
    rw [distinct_cons, List.map_cons, List.map_cons, List.pairwise_cons]
    constructor
    · intro k hk
      rw [List.idxOf_cons_self, List.idxOf_cons_ne _ (hLater k hk)]
      exact Nat.succ_pos _
    · refine (ih.sublist (List.filter_sublist.map key)).imp_of_mem fun {k k'} hk hk' hLess => ?_
      rw [List.idxOf_cons_ne _ (hLater k hk), List.idxOf_cons_ne _ (hLater k' hk')]
      exact Nat.succ_lt_succ hLess

/-- Where no key is repeated, the first item with a key is the only one. -/
theorem filter_key_of_nodup {xs : List α} (h : (xs.map key).Nodup) (k : String) :
    (xs.filter fun x => key x = k) = (xs.find? fun x => key x = k).toList := by
  induction xs with
  | nil => rfl
  | cons x xs ih =>
    obtain ⟨hx, hRest⟩ := List.nodup_cons.mp h
    rcases eq_or_ne (key x) k with rfl | hNe
    · have hNone : (xs.filter fun y => key y = key x) = [] := by
        apply List.filter_eq_nil_iff.mpr
        intro y hy hKey
        exact hx (of_decide_eq_true hKey ▸ List.mem_map_of_mem hy)
      simp [hNone]
    · simp [hNe, ih hRest]

theorem firstOfEach_distinct (key : α → String) (xs : List α) :
    FirstOfEach key xs (distinct key xs) where
  sublist := distinctFrom_sublist key [] xs
  first k := by
    rw [filter_key_of_nodup (nodup_keys_distinct key xs), find?_distinct]
  ordered := ordered_distinct key xs

end

theorem claim_actedOnAs {ids : List String} (h : ∀ k ∈ ids, ¬Blank k) (ceiling : UInt32) :
    (claim ids ceiling).ActedOnAs (claim (distinct id ids) ceiling) := by
  refine ⟨claim_accepted (fun k hk => ?_) ceiling, rfl⟩
  rw [← Bool.not_eq_true, Text.isBlank_eq_true_iff]
  exact h k hk

theorem retry_actedOnAs {ids : List String} (h : ∀ k ∈ ids, ¬Blank k) (lastError : String) :
    (retry ids lastError).ActedOnAs (retry (distinct id ids) lastError) :=
  -- Claims and retries have the same check.
  ⟨(claim_actedOnAs h 0).1, rfl⟩

/-- Ids without a blank one among them are accepted, and of each the first occurrence is kept. An
accepted list of submissions is acted on with the first one under every id. -/
theorem repetitions_dropped :
    (∀ ids : List String, (∀ k ∈ ids, ¬Blank k) →
      (∀ ceiling, (claim ids ceiling).ActedOnAs (claim (distinct id ids) ceiling)) ∧
      (∀ lastError, (retry ids lastError).ActedOnAs (retry (distinct id ids) lastError)) ∧
      (distinct id ids).Nodup ∧ (∀ k, k ∈ distinct id ids ↔ k ∈ ids) ∧
      ((distinct id ids).Pairwise fun k k' => ids.idxOf k < ids.idxOf k') ∧
      distinct id (distinct id ids) = distinct id ids ∧
      ∀ more, distinct id (ids ++ more) =
        distinct id ids ++ (distinct id more).filter fun k => k ∉ ids) ∧
    ∀ submissions, (insert submissions).fault? = none →
      (insert submissions).ActedOnAs (insert (distinct Submission.requestId submissions)) ∧
      FirstOfEach Submission.requestId submissions (distinct Submission.requestId submissions) := by
  constructor
  · intro ids hIds
    refine ⟨claim_actedOnAs hIds, retry_actedOnAs hIds, nodup_distinct_ids ids,
      mem_distinct_ids ids, ?_, distinct_distinct id ids, fun more => ?_⟩
    · simpa using ordered_distinct id ids
    · simpa using distinct_append id ids more
  · intro submissions hAccepted
    exact ⟨⟨hAccepted, rfl⟩, firstOfEach_distinct _ submissions⟩

/-- The second submission under an id is dropped, though it has another hash. -/
theorem repetitions_dropped_resubmitted :
    let ids := ["b", "a", "b"]
    let first : Submission := ⟨"b", "h", "org", newYear⟩
    let other : Submission := ⟨"a", "h", "org", newYear⟩
    let again : Submission := ⟨"b", "g", "org", newYear⟩
    (∀ k ∈ ids, ¬Blank k) ∧ (claim ids 3).ActedOnAs (claim ["b", "a"] 3) ∧
      distinct id (ids ++ ["c", "a"]) = ["b", "a", "c"] ∧
      (insert [first, other, again]).fault? = none ∧
      (insert [first, other, again]).ActedOnAs (insert [first, other]) ∧
      FirstOfEach Submission.requestId [first, other, again] [first, other] := by
  intro ids first other again
  obtain ⟨hIds, hSubmissions⟩ := repetitions_dropped
  have hNonblank : ∀ k ∈ ids, ¬Blank k := by
    simp only [← Text.isBlank_eq_true_iff]
    decide
  have hAccepted : (insert [first, other, again]).fault? = none := by decide
  obtain ⟨hClaim, _, _, _, _, _, hAppend⟩ := hIds ids hNonblank
  obtain ⟨hInsert, hFirst⟩ := hSubmissions _ hAccepted
  exact ⟨hNonblank, hClaim 3, hAppend ["c", "a"], hAccepted, hInsert, hFirst⟩

end AnchorQueue.Batch
