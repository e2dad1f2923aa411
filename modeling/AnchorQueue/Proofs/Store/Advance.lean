import AnchorQueue.Proofs.Batch.Accepted
import AnchorQueue.Store.Perform

/-!
# Actions on several jobs

Actions under distinct ids do not see each other: what is stored under an id afterwards depends on
what was stored there and on the action of that id. The moved jobs are those whose action applied.
-/

namespace AnchorQueue

open AnchorQueue.Time (Instant)

theorem Job.act_of_act?_eq_none {j : Job} {a : Action} (h : j.act? a = none) : j.act a = j := by
  rw [Job.act, attempt_of_act?_eq_none h]

theorem Job.act_of_act?_eq_some {j k : Job} {a : Action} (h : j.act? a = some k) : j.act a = k := by
  rw [Job.act, attempt_of_act?_eq_some h]

theorem Job.act?_eq_none_of_status_ne {j : Job} {a : Action} (h : j.status ≠ a.source) :
    j.act? a = none :=
  act?_eq_none_iff.mpr fun hApplies => h hApplies.1

theorem Job.requestId_of_act? {j k : Job} {a : Action} (h : j.act? a = some k) :
    k.requestId = j.requestId := by
  obtain ⟨_, rfl⟩ := act?_eq_some_iff.mp h
  cases a <;> rfl

theorem Action.target_ne_source (a : Action) : a.target ≠ a.source := by
  cases a <;> simp [target, source]

/-- An action leads away from its source, so it does not apply twice. -/
theorem Job.status_act_ne {j : Job} {a : Action} (h : a.admits j = true) :
    (j.act a).status ≠ a.source := by
  by_cases hStatus : j.status = a.source
  · rw [act_of_act?_eq_some (act?_eq_some_iff.mpr ⟨⟨hStatus, h⟩, rfl⟩)]
    exact a.target_ne_source
  · rw [act_of_act?_eq_none (act?_eq_none_of_status_ne hStatus)]
    exact hStatus

namespace Store

theorem lookup_eq_none_of_not_mem {β : Type} {entries : List (String × β)} {id : String}
    (h : id ∉ entries.map Prod.fst) : entries.lookup id = none := by
  rw [List.lookup_eq_none_iff]
  intro entry hEntry
  have hne : id ≠ entry.1 := fun hid => h (hid ▸ List.mem_map_of_mem hEntry)
  simpa using hne

theorem keys_map {α β : Type} (key : α → String) (value : α → β) (xs : List α) :
    (xs.map fun x => (key x, value x)).map Prod.fst = xs.map key := by
  rw [List.map_map]
  rfl

theorem keys_map_const {β : Type} (ids : List String) (value : β) :
    (ids.map fun k => (k, value)).map Prod.fst = ids := by
  rw [keys_map fun k => k, List.map_id']

theorem lookup_map {α β : Type} (key : α → String) (value : α → β) (xs : List α) (id : String) :
    (xs.map fun x => (key x, value x)).lookup id = (xs.find? fun x => key x = id).map value := by
  induction xs with
  | nil => rfl
  | cons x xs ih =>
    by_cases hx : key x = id
    · subst hx
      simp
    · rw [List.map_cons, List.lookup_cons, List.find?_cons_of_neg (by simpa using hx), ih,
        beq_eq_false_iff_ne.mpr (Ne.symm hx)]

theorem lookup_map_const {β : Type} (ids : List String) (value : β) (id : String) :
    (ids.map fun k => (k, value)).lookup id = if id ∈ ids then some value else none := by
  induction ids with
  | nil => rfl
  | cons k ids ih =>
    by_cases hk : id = k
    · subst hk
      simp
    · simp [List.lookup_cons, beq_eq_false_iff_ne.mpr hk, hk, ih]

theorem advance_append (s : Store) (xs ys : List (String × Action)) :
    s.advance (xs ++ ys) = (((s.advance xs).1.advance ys).1,
      (s.advance xs).2 ++ ((s.advance xs).1.advance ys).2) := by
  induction xs generalizing s with
  | nil => rfl
  | cons x xs ih =>
    obtain ⟨id, a⟩ := x
    rw [List.cons_append, advance, advance]
    split
    · exact ih s
    · rename_i j _
      rw [ih]
      rfl

theorem get?_advance_of_not_mem (s : Store) {actions : List (String × Action)} {id : String}
    (h : id ∉ actions.map Prod.fst) : (s.advance actions).1.get? id = s.get? id := by
  induction actions generalizing s with
  | nil => rfl
  | cons x actions ih =>
    obtain ⟨k, a⟩ := x
    rw [List.map_cons, List.mem_cons, not_or] at h
    rw [advance]
    split
    · exact ih s h.2
    · rw [ih _ h.2, get?_put, if_neg h.1]

/-- Each id gets its own action. -/
theorem get?_advance (s : Store) {actions : List (String × Action)}
    (h : (actions.map Prod.fst).Nodup) (id : String) :
    (s.advance actions).1.get? id = (s.get? id).map fun j => (actions.lookup id).elim j j.act := by
  induction actions generalizing s with
  | nil => simp [advance]
  | cons x actions ih =>
    obtain ⟨k, a⟩ := x
    rw [List.map_cons, List.nodup_cons] at h
    rw [advance, List.lookup_cons]
    by_cases hk : id = k
    · -- The head has the action of the id, and no later action names the id again.
      subst hk
      rw [beq_self_eq_true]
      split
      · rename_i hAct
        rw [get?_advance_of_not_mem s h.1]
        cases hj : s.get? id with
        | none => rfl
        | some j =>
          rw [hj, Option.bind_some] at hAct
          simp [Job.act_of_act?_eq_none hAct]
      · rename_i k hAct
        rw [get?_advance_of_not_mem _ h.1, get?_put, if_pos rfl]
        obtain ⟨j, hj, hjk⟩ := Option.bind_eq_some_iff.mp hAct
        simp [hj, Job.act_of_act?_eq_some hjk]
    · rw [beq_eq_false_iff_ne.mpr hk]
      split
      · exact ih s h.2
      · rw [ih _ h.2, get?_put, if_neg hk]

/-- The moved jobs are those whose action applied, as they are afterwards. -/
theorem mem_advance_iff (s : Store) {actions : List (String × Action)}
    (h : (actions.map Prod.fst).Nodup) {id : String} {k : Job} :
    (id, k) ∈ (s.advance actions).2 ↔
      ∃ a ∈ actions.lookup id, (s.get? id).bind (fun j => j.act? a) = some k := by
  induction actions generalizing s with
  | nil => simp [advance]
  | cons x actions ih =>
    obtain ⟨i, a⟩ := x
    rw [List.map_cons, List.nodup_cons] at h
    rw [advance, List.lookup_cons]
    by_cases hi : id = i
    · subst hi
      have hNone := lookup_eq_none_of_not_mem h.1
      rw [beq_self_eq_true]
      split
      · rename_i hAct
        simp [ih s h.2, hNone, hAct]
      · rename_i j hAct
        simp [ih _ h.2, hNone, hAct, eq_comm]
    · rw [beq_eq_false_iff_ne.mpr hi]
      split
      · exact ih s h.2
      · simp [ih _ h.2, get?_put, hi]

theorem keys_advance_sublist (s : Store) (actions : List (String × Action)) :
    ((s.advance actions).2.map Prod.fst).Sublist (actions.map Prod.fst) := by
  induction actions generalizing s with
  | nil => exact List.Sublist.refl _
  | cons x actions ih =>
    obtain ⟨k, a⟩ := x
    rw [advance]
    split
    · exact (ih s).cons k
    · exact (ih _).cons_cons k

theorem get?_enroll (now : Instant) (s : Store) (submissions : List Submission) (id : String) :
    (s.enroll now submissions).1.get? id =
      (s.get? id).or ((submissions.find? fun x => x.requestId = id).map fun x => x.toJob now) := by
  induction submissions generalizing s with
  | nil => simp [enroll]
  | cons x submissions ih =>
    rw [enroll]
    by_cases hx : x.requestId = id
    · subst hx
      rw [List.find?_cons_of_pos (by simp)]
      split
      · rename_i j hj
        simp [ih, hj]
      · rename_i hNone
        simp [ih, get?_put, hNone]
    · rw [List.find?_cons_of_neg (by simpa using hx)]
      split
      · exact ih s
      · simp [ih, get?_put, Ne.symm hx]

end Store

end AnchorQueue
