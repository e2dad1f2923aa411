import AnchorQueue.Proofs.Store.Shape
import Mathlib.Algebra.Ring.Nat

/-!
# Sums over the stored jobs

A number for every job adds up over the store. Storing a job changes the sum by the number of the
new job less that of the job it replaces, so a list of actions that all make the same move changes
the sum by a fixed amount for every job that moved.
-/

namespace AnchorQueue

open AnchorQueue.Time (Instant)

namespace RosterEntries

variable {α : Type}

theorem sum_put (f : α → Nat) (key : String) (value : α) (entries : List (String × α)) :
    (((put key value entries).map Prod.snd).map f).sum +
        ((entries.find? fun entry => entry.1 = key).map Prod.snd).elim 0 f =
      ((entries.map Prod.snd).map f).sum + f value := by
  induction entries with
  | nil => simp [put]
  | cons entry rest ih =>
    by_cases hk : entry.1 = key
    · rw [put, if_pos hk, List.find?_cons_of_pos (by simpa using hk)]
      simp only [List.map_cons, List.sum_cons, Option.map_some, Option.elim_some]
      omega
    · rw [put, if_neg hk, List.find?_cons_of_neg (by simpa using hk)]
      simp only [List.map_cons, List.sum_cons]
      omega

end RosterEntries

namespace Store

def sum (s : Store) (f : Job → Nat) : Nat :=
  (s.jobs.values.map f).sum

theorem sum_put (s : Store) (f : Job → Nat) (id : String) (k : Job) :
    (s.put id k).sum f + (s.get? id).elim 0 f = s.sum f + f k :=
  RosterEntries.sum_put f id k s.jobs.entries

theorem sum_enroll {f : Job → Nat} {weight : Nat} {now : Instant}
    (h : ∀ x : Submission, f (x.toJob now) = weight) (s : Store) (submissions : List Submission) :
    (s.enroll now submissions).1.sum f =
      s.sum f + weight * (s.enroll now submissions).2 := by
  induction submissions generalizing s with
  | nil => simp [enroll]
  | cons x submissions ih =>
    rw [enroll]
    split
    · exact ih s
    · rename_i hNone
      have hPut := s.sum_put f x.requestId (x.toJob now)
      rw [hNone, Option.elim_none, h x] at hPut
      simp only [ih, Nat.mul_add]
      omega

/-- Storing a job under an id that no action names leaves the jobs of the actions alone. -/
theorem get?_put_of_mem (s : Store) {actions : List (String × Action)} {id : String}
    (hNew : id ∉ actions.map Prod.fst) {x : String × Action} (hx : x ∈ actions) (k : Job) :
    (s.put id k).get? x.1 = s.get? x.1 := by
  have hne : x.1 ≠ id := by
    rintro rfl
    exact hNew (List.mem_map_of_mem hx)
  rw [get?_put, if_neg hne]

theorem sum_advance {f : Job → Nat} {lost gained : Nat} (s : Store)
    {actions : List (String × Action)} (hNodup : (actions.map Prod.fst).Nodup)
    (h : ∀ x ∈ actions, ∀ j ∈ s.get? x.1, ∀ k, j.act? x.2 = some k → f k + lost = f j + gained) :
    (s.advance actions).1.sum f + lost * (s.advance actions).2.length =
      s.sum f + gained * (s.advance actions).2.length := by
  induction actions generalizing s with
  | nil => simp [advance]
  | cons x actions ih =>
    obtain ⟨id, a⟩ := x
    rw [List.map_cons, List.nodup_cons] at hNodup
    rw [advance]
    split
    · exact ih s hNodup.2 fun y hy => h y (List.mem_cons_of_mem _ hy)
    · rename_i k hAct
      obtain ⟨j, hj, hjk⟩ := Option.bind_eq_some_iff.mp hAct
      have hHead := h (id, a) List.mem_cons_self j hj k hjk
      have hPut := s.sum_put f id k
      rw [hj, Option.elim_some] at hPut
      have hRest := ih (s.put id k) hNodup.2 fun y hy m hm => by
        rw [s.get?_put_of_mem hNodup.1 hy] at hm
        exact h y (List.mem_cons_of_mem _ hy) m hm
      simp only [List.length_cons, Nat.mul_add]
      omega

theorem length_advance (s : Store) {actions : List (String × Action)}
    (hNodup : (actions.map Prod.fst).Nodup)
    (h : ∀ x ∈ actions, ∃ j ∈ s.get? x.1, ∃ k, j.act? x.2 = some k) :
    (s.advance actions).2.length = actions.length := by
  induction actions generalizing s with
  | nil => rfl
  | cons x actions ih =>
    obtain ⟨id, a⟩ := x
    rw [List.map_cons, List.nodup_cons] at hNodup
    obtain ⟨j, hj, k, hAct⟩ := h (id, a) List.mem_cons_self
    have hBind : ((s.get? id).bind fun j => j.act? a) = some k := by
      rw [hj, Option.bind_some, hAct]
    have hRest := ih (s.put id k) hNodup.2 fun y hy => by
      rw [s.get?_put_of_mem hNodup.1 hy]
      exact h y (List.mem_cons_of_mem _ hy)
    rw [advance, hBind]
    simp only [List.length_cons, hRest]

end Store

end AnchorQueue
