import Mathlib.Data.List.Forall2

/-!
# Steps that may fail

A step that goes on from another one succeeds if both do, and fails with the error of the first of
them that fails. So do the same steps for each member of a list.
-/

namespace AnchorQueue

variable {ε ε' α β γ : Type}

theorem bind_eq_ok_iff {x : Except ε α} {next : α → Except ε β} {b : β} :
    (x >>= next) = .ok b ↔ ∃ a, x = .ok a ∧ next a = .ok b := by
  cases x <;> simp [bind, Except.bind]

theorem bind_eq_error_iff {x : Except ε α} {next : α → Except ε β} {e : ε} :
    (x >>= next) = .error e ↔ x = .error e ∨ ∃ a, x = .ok a ∧ next a = .error e := by
  cases x <;> simp [bind, Except.bind]

theorem mapError_eq_ok_iff {g : ε → ε'} {x : Except ε α} {a : α} :
    x.mapError g = .ok a ↔ x = .ok a := by
  cases x <;> simp [Except.mapError]

theorem mapError_eq_error_iff {g : ε → ε'} {x : Except ε α} {e : ε'} :
    x.mapError g = .error e ↔ ∃ f, x = .error f ∧ g f = e := by
  cases x <;> simp [Except.mapError]

theorem mapError_bind_eq_error_iff {g : ε → ε'} {x : Except ε α} {next : α → Except ε β}
    {e : ε'} : (x >>= next).mapError g = .error e ↔
      x.mapError g = .error e ∨ ∃ a, x = .ok a ∧ (next a).mapError g = .error e := by
  cases x <;> simp [bind, Except.bind, Except.mapError]

theorem mapM_eq_error {f : α → Except ε β} {xs : List α} {e : ε} (h : xs.mapM f = .error e) :
    ∃ x ∈ xs, f x = .error e := by
  induction xs with
  | nil => cases h
  | cons x xs ih =>
    rw [List.mapM_cons] at h
    obtain hx | ⟨y, _, h⟩ := bind_eq_error_iff.mp h
    · exact ⟨x, List.mem_cons_self, hx⟩
    · obtain hxs | ⟨ys, _, h⟩ := bind_eq_error_iff.mp h
      · obtain ⟨z, hz, hFault⟩ := ih hxs
        exact ⟨z, List.mem_cons_of_mem x hz, hFault⟩
      · cases h

theorem forall₂_of_mapM_eq_ok {f : α → Except ε β} {xs : List α} {ys : List β}
    (h : xs.mapM f = .ok ys) : List.Forall₂ (fun x y => f x = .ok y) xs ys := by
  induction xs generalizing ys with
  | nil =>
    cases h
    exact .nil
  | cons x xs ih =>
    rw [List.mapM_cons] at h
    obtain ⟨y, hx, h⟩ := bind_eq_ok_iff.mp h
    obtain ⟨zs, hxs, h⟩ := bind_eq_ok_iff.mp h
    cases h
    exact .cons hx (ih hxs)

theorem mem_of_mapM_eq_ok {f : α → Except ε β} {xs : List α} {ys : List β}
    (h : xs.mapM f = .ok ys) {y : β} (hy : y ∈ ys) : ∃ x ∈ xs, f x = .ok y := by
  have hEach := forall₂_of_mapM_eq_ok h
  clear h
  induction hEach with
  | nil => cases hy
  | cons hx _ ih =>
    rcases List.mem_cons.mp hy with rfl | hRest
    · exact ⟨_, List.mem_cons_self, hx⟩
    · obtain ⟨x, hMem, hOk⟩ := ih hRest
      exact ⟨x, List.mem_cons_of_mem _ hMem, hOk⟩

theorem mapM_map_eq_ok {f : β → Except ε γ} {g : α → β} {h : α → γ}
    (hEach : ∀ a, f (g a) = .ok (h a)) (xs : List α) : (xs.map g).mapM f = .ok (xs.map h) := by
  have hPure : f ∘ g = fun a => pure (h a) := funext hEach
  rw [List.mapM_map, hPure, List.mapM_pure]
  rfl

end AnchorQueue
