import AnchorQueue.Store.Batch

/-!
# The first item of every key

Dropping repetitions keeps the set of keys, leaves one item per key, and leaves for each key the
item that came first.
-/

namespace AnchorQueue.Batch

variable {α : Type}

theorem mem_keys_distinctFrom {key : α → String} {seen : List String} {xs : List α} {k : String} :
    k ∈ (distinctFrom key seen xs).map key ↔ k ∈ xs.map key ∧ k ∉ seen := by
  induction xs generalizing seen with
  | nil => simp [distinctFrom]
  | cons x xs ih =>
    by_cases hSeen : key x ∈ seen
    · rw [distinctFrom, if_pos hSeen, ih, List.map_cons, List.mem_cons]
      constructor
      · rintro ⟨hk, hNew⟩
        exact ⟨Or.inr hk, hNew⟩
      · rintro ⟨rfl | hk, hNew⟩
        · exact absurd hSeen hNew
        · exact ⟨hk, hNew⟩
    · rw [distinctFrom, if_neg hSeen, List.map_cons, List.mem_cons, ih, List.map_cons,
        List.mem_cons, List.mem_cons, not_or]
      constructor
      · rintro (rfl | ⟨hk, _, hNew⟩)
        · exact ⟨Or.inl rfl, hSeen⟩
        · exact ⟨Or.inr hk, hNew⟩
      · rintro ⟨hk | hk, hNew⟩
        · exact Or.inl hk
        · by_cases hx : k = key x
          · exact Or.inl hx
          · exact Or.inr ⟨hk, hx, hNew⟩

theorem nodup_keys_distinctFrom (key : α → String) (seen : List String) (xs : List α) :
    ((distinctFrom key seen xs).map key).Nodup := by
  induction xs generalizing seen with
  | nil => exact List.nodup_nil
  | cons x xs ih =>
    rw [distinctFrom]
    split
    · exact ih seen
    · rw [List.map_cons, List.nodup_cons]
      refine ⟨fun hx => ?_, ih (key x :: seen)⟩
      exact (mem_keys_distinctFrom.mp hx).2 List.mem_cons_self

theorem find?_distinctFrom {key : α → String} {seen : List String} {xs : List α} {k : String}
    (hk : k ∉ seen) :
    (distinctFrom key seen xs).find? (fun x => key x = k) = xs.find? fun x => key x = k := by
  induction xs generalizing seen with
  | nil => rfl
  | cons x xs ih =>
    rw [distinctFrom]
    split
    · rename_i hSeen
      have hx : key x ≠ k := fun h => hk (h ▸ hSeen)
      rw [List.find?_cons_of_neg (by simpa using hx)]
      exact ih hk
    · by_cases hx : key x = k
      · rw [List.find?_cons_of_pos (by simpa using hx), List.find?_cons_of_pos (by simpa using hx)]
      · -- The kept item joins the seen ones under another key, so `k` is still unseen.
        rw [List.find?_cons_of_neg (by simpa using hx), List.find?_cons_of_neg (by simpa using hx)]
        exact ih (by simp [hk, Ne.symm hx])

theorem distinctFrom_sublist (key : α → String) (seen : List String) (xs : List α) :
    (distinctFrom key seen xs).Sublist xs := by
  induction xs generalizing seen with
  | nil => exact List.Sublist.refl _
  | cons x xs ih =>
    rw [distinctFrom]
    split
    · exact (ih seen).cons x
    · exact (ih _).cons_cons x

theorem mem_keys_distinct (key : α → String) (xs : List α) (k : String) :
    k ∈ (distinct key xs).map key ↔ k ∈ xs.map key := by
  simp [distinct, mem_keys_distinctFrom]

theorem nodup_keys_distinct (key : α → String) (xs : List α) : ((distinct key xs).map key).Nodup :=
  nodup_keys_distinctFrom key [] xs

theorem mem_distinct_ids (ids : List String) (k : String) : k ∈ distinct id ids ↔ k ∈ ids := by
  simpa using mem_keys_distinct id ids k

theorem nodup_distinct_ids (ids : List String) : (distinct id ids).Nodup := by
  simpa using nodup_keys_distinct id ids

theorem find?_distinct (key : α → String) (xs : List α) (k : String) :
    (distinct key xs).find? (fun x => key x = k) = xs.find? fun x => key x = k :=
  find?_distinctFrom List.not_mem_nil

end AnchorQueue.Batch
