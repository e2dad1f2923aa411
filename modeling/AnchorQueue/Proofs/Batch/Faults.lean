import AnchorQueue.Proofs.Batch.Accepted
import Mathlib.Algebra.Group.Nat.Defs

/-!
# The first fault of a batch

What is wrong with an item is said by its place: an item can be at fault in itself, or repeat the id
of an item before it. The check of a batch finds the fault of the first item that has one, and finds
none exactly in the batches that have none.
-/

namespace AnchorQueue

/-- Nothing but white space. -/
def Text.Blank (text : String) : Prop :=
  ∀ c ∈ text.toList, isWhite c = true

theorem Text.isBlank_eq_true_iff {text : String} : isBlank text = true ↔ Blank text := by
  rw [isBlank, List.all_eq_true, Blank]

namespace Batch

open Text (Blank)

/-- Some item must not stand where it stands. -/
def Malformed : Batch → Prop
  | insert submissions => ∃ x ∈ submissions, Blank x.requestId ∨ Blank x.logHash
  | claim ids _ => ∃ id ∈ ids, Blank id
  | complete anchorings => ∃ i a, anchorings[i]? = some a ∧ (Blank a.requestId ∨
      2 ^ 63 - 1 < a.blockHeight.toNat ∨
      a.requestId ∈ (anchorings.take i).map Anchoring.requestId)
  | fail failures => ∃ i x, failures[i]? = some x ∧ (Blank x.requestId ∨
      x.requestId ∈ (failures.take i).map Failure.requestId)
  | retry ids _ => ∃ id ∈ ids, Blank id

/-- The fault of the item at a place. Of several the blank id counts first, a repetition last. -/
def FaultAt (i : Nat) (f : BatchFault) : Batch → Prop
  | insert submissions => ∃ x, submissions[i]? = some x ∧
      (Blank x.requestId ∧ f = .blankId ∨
        ¬Blank x.requestId ∧ Blank x.logHash ∧ f = .blankHash x.requestId)
  | claim ids _ => ∃ id, ids[i]? = some id ∧ Blank id ∧ f = .blankId
  | complete anchorings => ∃ a, anchorings[i]? = some a ∧
      (Blank a.requestId ∧ f = .blankId ∨
        ¬Blank a.requestId ∧ (2 ^ 63 - 1 < a.blockHeight.toNat ∧
            f = .heightOutOfRange a.requestId a.blockHeight ∨
          a.blockHeight.toNat ≤ 2 ^ 63 - 1 ∧
            a.requestId ∈ (anchorings.take i).map Anchoring.requestId ∧
            f = .repeatedCompletion a.requestId))
  | fail failures => ∃ x, failures[i]? = some x ∧
      (Blank x.requestId ∧ f = .blankId ∨
        ¬Blank x.requestId ∧ x.requestId ∈ (failures.take i).map Failure.requestId ∧
          f = .repeatedFailure x.requestId)
  | retry ids _ => ∃ id, ids[i]? = some id ∧ Blank id ∧ f = .blankId

/-- The fault of an item such that no item before it has one. -/
def FirstFault (b : Batch) (f : BatchFault) : Prop :=
  ∃ i, b.FaultAt i f ∧ ∀ k < i, ∀ g, ¬b.FaultAt k g

variable {α : Type}

/-- What the check says of the item at a place. -/
def itemFault (key : α → String) (fault : List String → α → Option BatchFault)
    (seen : List String) (xs : List α) (i : Nat) : Option BatchFault :=
  xs[i]?.bind (fault (((xs.take i).map key).reverse ++ seen))

section

variable {key : α → String} {fault : List String → α → Option BatchFault} {seen : List String}

theorem itemFault_zero (x : α) (xs : List α) :
    itemFault key fault seen (x :: xs) 0 = fault seen x := rfl

theorem itemFault_succ (x : α) (xs : List α) (i : Nat) :
    itemFault key fault seen (x :: xs) (i + 1) = itemFault key fault (key x :: seen) xs i := by
  simp [itemFault]

theorem firstFault_eq_none_iff {xs : List α} :
    firstFault key fault seen xs = none ↔ ∀ i, itemFault key fault seen xs i = none := by
  induction xs generalizing seen with
  | nil => simp [firstFault, itemFault]
  | cons x xs ih =>
    rw [firstFault]
    constructor
    · intro h i
      split at h
      · cases h
      · rename_i hx
        cases i with
        | zero => exact hx
        | succ i =>
          rw [itemFault_succ]
          exact ih.mp h i
    · intro h
      have hx : fault seen x = none := h 0
      rw [hx]
      apply ih.mpr
      intro i
      rw [← itemFault_succ]
      exact h (i + 1)

theorem firstFault_eq_some_iff {xs : List α} {f : BatchFault} :
    firstFault key fault seen xs = some f ↔ ∃ i, itemFault key fault seen xs i = some f ∧
      ∀ k < i, itemFault key fault seen xs k = none := by
  induction xs generalizing seen with
  | nil => simp [firstFault, itemFault]
  | cons x xs ih =>
    rw [firstFault]
    constructor
    · intro h
      split at h
      · rename_i g hx
        exact ⟨0, hx.trans h, fun k hk => absurd hk (Nat.not_lt_zero k)⟩
      · rename_i hx
        obtain ⟨i, hi, hBefore⟩ := ih.mp h
        refine ⟨i + 1, (itemFault_succ x xs i).trans hi, fun k hk => ?_⟩
        cases k with
        | zero => exact hx
        | succ k => exact (itemFault_succ x xs k).trans (hBefore k (Nat.lt_of_succ_lt_succ hk))
    · rintro ⟨i, hi, hBefore⟩
      cases i with
      | zero =>
        rw [itemFault_zero] at hi
        rw [hi]
      | succ i =>
        have hx : fault seen x = none := hBefore 0 (Nat.succ_pos i)
        rw [hx]
        refine ih.mpr ⟨i, (itemFault_succ x xs i).symm.trans hi, fun k hk => ?_⟩
        exact (itemFault_succ x xs k).symm.trans (hBefore (k + 1) (Nat.succ_lt_succ hk))

end

theorem check_eq_some_iff {p : Prop} [Decidable p] {f g : BatchFault}
    {rest : Option BatchFault} :
    (if p then some f else rest) = some g ↔ p ∧ g = f ∨ ¬p ∧ rest = some g := by
  by_cases hp : p <;> simp [hp, eq_comm]

theorem idFault_eq_some_iff {seen : List String} {id : String} {f : BatchFault} :
    idFault seen id = some f ↔ Blank id ∧ f = .blankId := by
  rw [idFault, check_eq_some_iff, Text.isBlank_eq_true_iff]
  simp

theorem submissionFault_eq_some_iff {seen : List String} {x : Submission} {f : BatchFault} :
    submissionFault seen x = some f ↔ Blank x.requestId ∧ f = .blankId ∨
      ¬Blank x.requestId ∧ Blank x.logHash ∧ f = .blankHash x.requestId := by
  rw [submissionFault, check_eq_some_iff, check_eq_some_iff, Text.isBlank_eq_true_iff,
    Text.isBlank_eq_true_iff]
  simp

theorem anchoringFault_eq_some_iff {seen : List String} {a : Anchoring} {f : BatchFault} :
    anchoringFault seen a = some f ↔ Blank a.requestId ∧ f = .blankId ∨
      ¬Blank a.requestId ∧ (2 ^ 63 - 1 < a.blockHeight.toNat ∧
          f = .heightOutOfRange a.requestId a.blockHeight ∨
        a.blockHeight.toNat ≤ 2 ^ 63 - 1 ∧ a.requestId ∈ seen ∧
          f = .repeatedCompletion a.requestId) := by
  rw [anchoringFault, check_eq_some_iff, check_eq_some_iff, check_eq_some_iff,
    Text.isBlank_eq_true_iff, Nat.not_lt, greatestHeight]
  simp

theorem failureFault_eq_some_iff {seen : List String} {x : Failure} {f : BatchFault} :
    failureFault seen x = some f ↔ Blank x.requestId ∧ f = .blankId ∨
      ¬Blank x.requestId ∧ x.requestId ∈ seen ∧ f = .repeatedFailure x.requestId := by
  rw [failureFault, check_eq_some_iff, check_eq_some_iff, Text.isBlank_eq_true_iff]
  simp

def faultAt? (i : Nat) : Batch → Option BatchFault
  | insert submissions => itemFault Submission.requestId submissionFault [] submissions i
  | claim ids _ => itemFault id idFault [] ids i
  | complete anchorings => itemFault Anchoring.requestId anchoringFault [] anchorings i
  | fail failures => itemFault Failure.requestId failureFault [] failures i
  | retry ids _ => itemFault id idFault [] ids i

theorem faultAt?_eq_some_iff {b : Batch} {i : Nat} {f : BatchFault} :
    b.faultAt? i = some f ↔ b.FaultAt i f := by
  cases b with
  | insert | claim | complete | fail | retry =>
    simp only [faultAt?, itemFault, FaultAt, Option.bind_eq_some_iff, List.append_nil,
      List.mem_reverse, idFault_eq_some_iff, submissionFault_eq_some_iff,
      anchoringFault_eq_some_iff, failureFault_eq_some_iff]

theorem faultAt?_eq_none_iff {b : Batch} {i : Nat} : b.faultAt? i = none ↔ ∀ f, ¬b.FaultAt i f := by
  simp only [← faultAt?_eq_some_iff]
  exact Option.eq_none_iff_forall_ne_some

theorem fault?_eq_some_iff {b : Batch} {f : BatchFault} : b.fault? = some f ↔ b.FirstFault f := by
  have hPlaces : b.fault? = some f ↔ ∃ i, b.faultAt? i = some f ∧ ∀ k < i, b.faultAt? k = none := by
    cases b <;> exact firstFault_eq_some_iff
  rw [hPlaces, FirstFault]
  simp only [faultAt?_eq_some_iff, faultAt?_eq_none_iff]

theorem fault?_eq_none_iff {b : Batch} : b.fault? = none ↔ ∀ i f, ¬b.FaultAt i f := by
  have hPlaces : b.fault? = none ↔ ∀ i, b.faultAt? i = none := by
    cases b <;> exact firstFault_eq_none_iff
  simp only [hPlaces, faultAt?_eq_none_iff]

theorem malformed_iff {b : Batch} : b.Malformed ↔ ∃ i f, b.FaultAt i f := by
  constructor
  · intro h
    cases b with
    | insert submissions =>
      obtain ⟨x, hx, hBlank⟩ := h
      obtain ⟨i, hi⟩ := List.mem_iff_getElem?.mp hx
      by_cases hId : Blank x.requestId
      · exact ⟨i, _, x, hi, Or.inl ⟨hId, rfl⟩⟩
      · exact ⟨i, _, x, hi, Or.inr ⟨hId, hBlank.resolve_left hId, rfl⟩⟩
    | claim ids ceiling =>
      obtain ⟨id, hid, hBlank⟩ := h
      obtain ⟨i, hi⟩ := List.mem_iff_getElem?.mp hid
      exact ⟨i, _, id, hi, hBlank, rfl⟩
    | complete anchorings =>
      obtain ⟨i, a, hi, hFault⟩ := h
      by_cases hId : Blank a.requestId
      · exact ⟨i, _, a, hi, Or.inl ⟨hId, rfl⟩⟩
      · rcases Nat.lt_or_ge (2 ^ 63 - 1) a.blockHeight.toNat with hHeight | hHeight
        · exact ⟨i, _, a, hi, Or.inr ⟨hId, Or.inl ⟨hHeight, rfl⟩⟩⟩
        · have hSeen := (hFault.resolve_left hId).resolve_left (Nat.not_lt.mpr hHeight)
          exact ⟨i, _, a, hi, Or.inr ⟨hId, Or.inr ⟨hHeight, hSeen, rfl⟩⟩⟩
    | fail failures =>
      obtain ⟨i, x, hi, hFault⟩ := h
      by_cases hId : Blank x.requestId
      · exact ⟨i, _, x, hi, Or.inl ⟨hId, rfl⟩⟩
      · exact ⟨i, _, x, hi, Or.inr ⟨hId, hFault.resolve_left hId, rfl⟩⟩
    | retry ids lastError =>
      obtain ⟨id, hid, hBlank⟩ := h
      obtain ⟨i, hi⟩ := List.mem_iff_getElem?.mp hid
      exact ⟨i, _, id, hi, hBlank, rfl⟩
  · rintro ⟨i, f, h⟩
    cases b with
    | insert submissions =>
      obtain ⟨x, hi, ⟨hId, _⟩ | ⟨_, hHash, _⟩⟩ := h
      · exact ⟨x, List.mem_of_getElem? hi, Or.inl hId⟩
      · exact ⟨x, List.mem_of_getElem? hi, Or.inr hHash⟩
    | claim ids ceiling =>
      obtain ⟨id, hi, hBlank, _⟩ := h
      exact ⟨id, List.mem_of_getElem? hi, hBlank⟩
    | complete anchorings =>
      obtain ⟨a, hi, ⟨hId, _⟩ | ⟨_, ⟨hHeight, _⟩ | ⟨_, hSeen, _⟩⟩⟩ := h
      · exact ⟨i, a, hi, Or.inl hId⟩
      · exact ⟨i, a, hi, Or.inr (Or.inl hHeight)⟩
      · exact ⟨i, a, hi, Or.inr (Or.inr hSeen)⟩
    | fail failures =>
      obtain ⟨x, hi, ⟨hId, _⟩ | ⟨_, hSeen, _⟩⟩ := h
      · exact ⟨i, x, hi, Or.inl hId⟩
      · exact ⟨i, x, hi, Or.inr hSeen⟩
    | retry ids lastError =>
      obtain ⟨id, hi, hBlank, _⟩ := h
      exact ⟨id, List.mem_of_getElem? hi, hBlank⟩

theorem malformed_iff_exists_fault? {b : Batch} : b.Malformed ↔ ∃ f, b.fault? = some f := by
  rw [malformed_iff, ← Option.ne_none_iff_exists', Ne, fault?_eq_none_iff]
  simp only [Classical.not_forall, Classical.not_not]

theorem not_malformed_iff {b : Batch} : ¬b.Malformed ↔ b.fault? = none := by
  rw [malformed_iff_exists_fault?, ← Option.ne_none_iff_exists', Ne, Classical.not_not]

end Batch

end AnchorQueue
