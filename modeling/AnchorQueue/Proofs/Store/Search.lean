import AnchorQueue.Proofs.Store.Earliest
import AnchorQueue.Proofs.Store.Shape

/-!
# The first job with a hash

In the states that calls lead to, every job lies under its own id. Then no two jobs with one hash
can stand at the same place of the order, and a search by hash gives the only job that comes before
all the others.
-/

namespace AnchorQueue

namespace Store

/-- The stored job with the hash that comes before all others, by time of storing and then by id. -/
structure FirstWith (s : Store) (hash : String) (j : Job) : Prop where
  stored : s.get? j.requestId = some j
  logHash_eq : j.logHash = hash
  first : ∀ id k, s.get? id = some k → k.logHash = hash → k ≠ j →
    j.storedAt < k.storedAt ∨ j.storedAt = k.storedAt ∧ j.requestId < k.requestId

variable {s : Store} {hash : String} {j k : Job}

theorem FirstWith.unique (hj : s.FirstWith hash j) (hk : s.FirstWith hash k) : j = k := by
  refine Decidable.byContradiction fun hNe => ?_
  have hjk := precedes_iff.mpr (hj.first k.requestId k hk.stored hk.logHash_eq (Ne.symm hNe))
  have hkj := precedes_iff.mpr (hk.first j.requestId j hj.stored hj.logHash_eq hNe)
  exact precedes_asymm hjk hkj

theorem Sound.firstWith_of_find? (h : s.Sound) (hFind : s.find? (.logHash hash) = some j) :
    s.FirstWith hash j := by
  obtain ⟨⟨id, hStored⟩, hHash, hFirst⟩ := find?_logHash_spec hFind
  have hKey := (h id j hStored).key
  refine ⟨hKey ▸ hStored, hHash, fun id' k hk hHash' hNe => precedes_iff.mp ?_⟩
  refine Decidable.byContradiction fun hNot => ?_
  have hId := requestId_eq_of_not_precedes hNot (hFirst id' k hk hHash')
  rw [(h id' k hk).key, hKey] at hId
  rw [← hId, hStored] at hk
  exact hNe (Option.some.inj hk).symm

theorem Sound.find?_logHash_eq_some_iff (h : s.Sound) :
    s.find? (.logHash hash) = some j ↔ s.FirstWith hash j := by
  refine ⟨h.firstWith_of_find?, fun hFirst => ?_⟩
  cases hFind : s.find? (.logHash hash) with
  | none => exact absurd hFirst.logHash_eq (s.find?_logHash_eq_none_iff.mp hFind _ j hFirst.stored)
  | some k => rw [(h.firstWith_of_find? hFind).unique hFirst]

theorem find_eq_ok_iff {key : Key} : s.find key = .ok j ↔ s.find? key = some j := by
  rw [find]
  cases s.find? key <;> simp

theorem Sound.exists_firstWith (h : s.Sound) {id : String} (hj : s.get? id = some j)
    (hHash : j.logHash = hash) : ∃ k, s.FirstWith hash k := by
  cases hFind : s.find? (.logHash hash) with
  | none => exact absurd hHash (s.find?_logHash_eq_none_iff.mp hFind id j hj)
  | some k => exact ⟨k, h.firstWith_of_find? hFind⟩

end Store

end AnchorQueue
