/-!
# Rosters

A roster keeps one entry per key, in the order in which the keys came in. A new value for an old
key takes the old place.
-/

namespace AnchorQueue

variable {α : Type}

namespace RosterEntries

def put (key : String) (value : α) : List (String × α) → List (String × α)
  | [] => [(key, value)]
  | entry :: rest =>
    if entry.1 = key then (key, value) :: rest else entry :: put key value rest

theorem mem_keys_put {key k : String} {value : α} {entries : List (String × α)} :
    k ∈ (put key value entries).map Prod.fst ↔ k = key ∨ k ∈ entries.map Prod.fst := by
  induction entries with
  | nil => simp [put]
  | cons entry rest ih =>
    by_cases h : entry.1 = key
    · simp only [put, h, if_true, List.map_cons, List.mem_cons]
      constructor
      · rintro (h | h) <;> simp [h]
      · rintro (h | h | h) <;> simp [h]
    · simp only [put, h, if_false, List.map_cons, List.mem_cons, ih]
      constructor
      · rintro (h | h | h) <;> simp [h]
      · rintro (h | h | h) <;> simp [h]

theorem nodup_keys_put {key : String} {value : α} {entries : List (String × α)}
    (h : (entries.map Prod.fst).Nodup) : ((put key value entries).map Prod.fst).Nodup := by
  induction entries with
  | nil => simp [put]
  | cons entry rest ih =>
    rw [List.map_cons, List.nodup_cons] at h
    by_cases hk : entry.1 = key
    · simp only [put, hk, if_true, List.map_cons, List.nodup_cons]
      exact ⟨hk ▸ h.1, h.2⟩
    · simp only [put, hk, if_false, List.map_cons, List.nodup_cons]
      refine ⟨fun hm => ?_, ih h.2⟩
      rcases mem_keys_put.mp hm with hm | hm
      · exact hk hm
      · exact h.1 hm

end RosterEntries

structure Roster (α : Type) where
  entries : List (String × α)
  nodup_keys : (entries.map Prod.fst).Nodup

namespace Roster

def empty : Roster α :=
  ⟨[], by simp⟩

def get? (r : Roster α) (key : String) : Option α :=
  (r.entries.find? fun entry => entry.1 = key).map Prod.snd

def put (r : Roster α) (key : String) (value : α) : Roster α :=
  ⟨RosterEntries.put key value r.entries, RosterEntries.nodup_keys_put r.nodup_keys⟩

def values (r : Roster α) : List α :=
  r.entries.map Prod.snd

def size (r : Roster α) : Nat :=
  r.entries.length

theorem get?_eq_some_iff (r : Roster α) {key : String} {value : α} :
    r.get? key = some value ↔ (key, value) ∈ r.entries := by
  obtain ⟨entries, hNodup⟩ := r
  simp only [get?]
  induction entries with
  | nil => simp
  | cons entry rest ih =>
    obtain ⟨e, v⟩ := entry
    obtain ⟨hNew, hRest⟩ := List.nodup_cons.mp hNodup
    have ih := ih hRest
    by_cases he : e = key
    · subst he
      have hNot : (e, value) ∉ rest := fun hMem => hNew (List.mem_map.mpr ⟨_, hMem, rfl⟩)
      simp [hNot, eq_comm]
    · simpa [List.find?_cons, he, Ne.symm he] using ih

theorem get?_put (r : Roster α) (key k : String) (value : α) :
    (r.put key value).get? k = if k = key then some value else r.get? k := by
  obtain ⟨entries, _⟩ := r
  simp only [put, get?]
  induction entries with
  | nil => by_cases h : k = key <;> simp [RosterEntries.put, h, eq_comm]
  | cons entry rest ih =>
    obtain ⟨e, v⟩ := entry
    have ih := ih (List.nodup_cons.mp (by assumption)).2
    by_cases he : e = key
    · subst he
      by_cases h : k = e
      · simp [RosterEntries.put, h]
      · simp [RosterEntries.put, h, Ne.symm h]
    · by_cases h : k = e
      · subst h
        simp [RosterEntries.put, he]
      · simpa [RosterEntries.put, he, List.find?_cons, Ne.symm h] using ih

end Roster

end AnchorQueue
