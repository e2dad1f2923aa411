import AnchorQueue.Proofs.Store.Stability
import Mathlib.Logic.ExistsUnique

/-!
# The order of the entries

A search by hash goes through the entries of a store in whatever order they come. Of two jobs that
are stored at one time it takes the one with the lesser id, and no two jobs have one id; so in the
states that calls lead to, the order of the entries does not show in the answer.
-/

namespace AnchorQueue

theorem Roster.get?_eq_of_perm {α : Type} {r r' : Roster α} (h : r.entries.Perm r'.entries)
    (key : String) : r.get? key = r'.get? key := by
  apply Option.ext
  intro value
  rw [get?_eq_some_iff, get?_eq_some_iff, h.mem_iff]

namespace Store

/-- The second store has the entries of the first in some order. -/
def Reorders (s t : Store) : Prop :=
  t.jobs.entries.Perm s.jobs.entries

variable {s t : Store} {hash : String} {j : Job}

theorem Reorders.get?_eq (h : s.Reorders t) (id : String) : t.get? id = s.get? id :=
  Roster.get?_eq_of_perm h id

theorem Reorders.sound (h : s.Reorders t) (hs : s.Sound) : t.Sound := by
  intro id j hj
  rw [h.get?_eq] at hj
  exact hs id j hj

theorem Reorders.firstWith_iff (h : s.Reorders t) : t.FirstWith hash j ↔ s.FirstWith hash j := by
  constructor
  · rintro ⟨hStored, hHash, hFirst⟩
    refine ⟨h.get?_eq _ ▸ hStored, hHash, fun id k hk => hFirst id k ?_⟩
    rwa [h.get?_eq]
  · rintro ⟨hStored, hHash, hFirst⟩
    refine ⟨(h.get?_eq _).trans hStored, hHash, fun id k hk => hFirst id k ?_⟩
    rwa [← h.get?_eq]

theorem Reorders.find_logHash_eq_ok_iff (h : s.Reorders t) (hs : s.Sound) :
    t.find (.logHash hash) = .ok j ↔ s.FirstWith hash j := by
  rw [find_eq_ok_iff, (h.sound hs).find?_logHash_eq_some_iff, h.firstWith_iff]

theorem find_eq_error_iff {key : Key} :
    s.find key = .error (.notFound key.describe) ↔ s.find? key = none := by
  rw [find]
  cases s.find? key <;> simp

theorem find?_logHash_eq_none_iff_not_holds : s.find? (.logHash hash) = none ↔ ¬s.Holds hash := by
  rw [find?_logHash_eq_none_iff, Holds]
  simp only [not_exists, not_and, ne_eq]

theorem Reorders.holds_iff (h : s.Reorders t) : t.Holds hash ↔ s.Holds hash := by
  simp only [Holds, h.get?_eq]

theorem Reorders.find_logHash_eq_error_iff (h : s.Reorders t) :
    t.find (.logHash hash) = .error (.notFound ("log_hash=" ++ hash)) ↔ ¬s.Holds hash := by
  rw [← h.holds_iff, ← find?_logHash_eq_none_iff_not_holds, ← find_eq_error_iff]
  rfl

theorem Sound.existsUnique_firstWith (hs : s.Sound) (h : s.Holds hash) :
    ∃! j, s.FirstWith hash j := by
  obtain ⟨id, k, hk, hHash⟩ := h
  obtain ⟨j, hj⟩ := hs.exists_firstWith hk hHash
  exact ⟨j, hj, fun i hi => hi.unique hj⟩

theorem Reorders.find_logHash_eq (h : s.Reorders t) (hs : s.Sound) :
    t.find (.logHash hash) = s.find (.logHash hash) := by
  by_cases hHolds : s.Holds hash
  · obtain ⟨j, hj, _⟩ := hs.existsUnique_firstWith hHolds
    rw [(h.find_logHash_eq_ok_iff hs).mpr hj]
    exact (find_eq_ok_iff.mpr (hs.find?_logHash_eq_some_iff.mpr hj)).symm
  · rw [h.find_logHash_eq_error_iff.mpr hHolds]
    exact (find_eq_error_iff.mpr (find?_logHash_eq_none_iff_not_holds.mpr hHolds)).symm

/-- After every run, and in whatever order the entries come, a search by hash finds the job with the
hash that comes before all the others with it. There is exactly one such job if the hash is there at
all, and otherwise the answer says that nothing was found. -/
theorem hash_lookup_least (calls : List Call) (hash : String) {t : Store}
    (hOrder : (empty.run calls).Reorders t) :
    (∀ j, t.find (.logHash hash) = .ok j ↔ (empty.run calls).FirstWith hash j) ∧
    ((empty.run calls).Holds hash → ∃! j, (empty.run calls).FirstWith hash j) ∧
    t.find (.logHash hash) = (empty.run calls).find (.logHash hash) ∧
    (t.find (.logHash hash) = .error (.notFound ("log_hash=" ++ hash)) ↔
      ¬(empty.run calls).Holds hash) := by
  have hSound := sound_empty.run calls
  exact ⟨fun j => hOrder.find_logHash_eq_ok_iff hSound, hSound.existsUnique_firstWith,
    hOrder.find_logHash_eq hSound, hOrder.find_logHash_eq_error_iff⟩

/-- Three jobs with one hash, of which two are stored at one time, in an order in which the job that
is found comes between the others. -/
theorem hash_lookup_least_reversed :
    let calls : List Call :=
      [⟨newYear, .insert [⟨"c", "h", "org", newYear⟩, ⟨"b", "h", "org", newYear⟩]⟩,
        ⟨newYearLater, .insert [⟨"a", "h", "org-a", newYear⟩]⟩]
    ∃ t : Store, (empty.run calls).Reorders t ∧
      t.jobs.entries.map Prod.fst = ["a", "b", "c"] ∧
      (∃ j, t.find (.logHash "h") = .ok j ∧ j.requestId = "b" ∧
        (empty.run calls).FirstWith "h" j) ∧
      t.find (.logHash "i") = .error (.notFound "log_hash=i") := by
  intro calls
  have hNodup : ((empty.run calls).jobs.entries.reverse.map Prod.fst).Nodup := by decide
  let t : Store := ⟨⟨(empty.run calls).jobs.entries.reverse, hNodup⟩⟩
  have hOrder : (empty.run calls).Reorders t := List.reverse_perm _
  obtain ⟨j, hj, hId⟩ : ∃ j, (empty.run calls).find (.logHash "h") = .ok j ∧ j.requestId = "b" :=
    ⟨_, rfl, rfl⟩
  obtain ⟨hFound, _, hSame, _⟩ := hash_lookup_least calls "h" hOrder
  have hNone : (empty.run calls).find (.logHash "i") = .error (.notFound "log_hash=i") := rfl
  rw [hj] at hSame
  refine ⟨t, hOrder, rfl, ⟨j, hSame, hId, (hFound j).mp hSame⟩, ?_⟩
  exact (hash_lookup_least calls "i" hOrder).2.2.1.trans hNone

end Store

end AnchorQueue
