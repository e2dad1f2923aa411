import AnchorQueue.Text.Decimal
import Mathlib.Algebra.Group.Nat.Defs

/-!
# Numbers and their digits

The digits of a number give the number back, also with zeros in front, and only zero itself is
written with a zero first.
-/

namespace AnchorQueue.Text

theorem digit_eq_digitChar (n : Nat) : digit n = (n % 10).digitChar := by
  have hDigits : ∀ d < 10, Char.ofNat (48 + d) = d.digitChar := by decide
  exact hDigits (n % 10) (Nat.mod_lt n (by decide))

theorem digits_eq_toDigits (n : Nat) : digits n = Nat.toDigits 10 n := by
  induction n using Nat.strongRecOn with
  | ind n ih =>
    rw [digits, digit_eq_digitChar]
    split
    · rename_i hLt
      rw [Nat.toDigits_of_lt_base hLt, Nat.mod_eq_of_lt hLt]
    · rw [ih (n / 10) (by omega), ← Nat.toDigits_of_base_le (by decide) (by omega)]

theorem digits_ne_nil (n : Nat) : digits n ≠ [] := by
  rw [digits_eq_toDigits]
  exact Nat.toDigits_ne_nil

theorem isDigit_of_mem_digits {n : Nat} {c : Char} (h : c ∈ digits n) : c.isDigit = true := by
  rw [digits_eq_toDigits] at h
  exact Nat.isDigit_of_mem_toDigits (by decide) (by decide) h

theorem length_digits_le_iff {n width : Nat} (hWidth : 0 < width) :
    (digits n).length ≤ width ↔ n < 10 ^ width := by
  rw [digits_eq_toDigits]
  exact Nat.length_toDigits_le_iff (by decide) hWidth

theorem foldl_eq_ofDigitChars (ds : List Char) (n : Nat) :
    ds.foldl (fun n d => n * 10 + digitValue d) n = Nat.ofDigitChars 10 ds n := by
  simp only [Nat.ofDigitChars_eq_foldl, Nat.mul_comm 10]
  rfl

theorem le_foldl_digitValue (ds : List Char) (acc : Nat) :
    acc ≤ ds.foldl (fun n d => n * 10 + digitValue d) acc := by
  induction ds generalizing acc with
  | nil => exact Nat.le_refl acc
  | cons d ds ih => exact Nat.le_trans (by omega) (ih (acc * 10 + digitValue d))

theorem foldl_digits (n : Nat) : (digits n).foldl (fun n d => n * 10 + digitValue d) 0 = n := by
  rw [foldl_eq_ofDigitChars, digits_eq_toDigits, Nat.ofDigitChars_ten_toDigits]

theorem head?_digits_ne_zero {n : Nat} (h : 0 < n) : (digits n).head? ≠ some '0' := by
  induction n using Nat.strongRecOn with
  | ind n ih =>
    rw [digits]
    split
    · rename_i hLt
      have hDigits : ∀ d < 10, 0 < d → [digit d].head? ≠ some '0' := by decide
      exact hDigits n hLt h
    · have hFront := ih (n / 10) (by omega) (by omega)
      obtain ⟨c, cs, hDigits⟩ := List.exists_cons_of_ne_nil (digits_ne_nil (n / 10))
      rw [hDigits] at hFront ⊢
      exact hFront

/-- A zero in front stands alone. -/
theorem eq_nil_of_digits_eq {n : Nat} {cs : List Char} (h : digits n = '0' :: cs) : cs = [] := by
  cases n with
  | zero =>
    rw [digits] at h
    exact (List.cons.inj h).2.symm
  | succ n =>
    have hHead := head?_digits_ne_zero n.succ_pos
    rw [h] at hHead
    exact absurd rfl hHead

/-! ## A fixed width -/

theorem isDigit_of_mem_paddedDigits {width n : Nat} {c : Char} (h : c ∈ paddedDigits width n) :
    c.isDigit = true := by
  rcases List.mem_append.mp h with hZero | hDigit
  · rw [List.eq_of_mem_replicate hZero]
    rfl
  · exact isDigit_of_mem_digits hDigit

theorem paddedDigits_ne_nil (width n : Nat) : paddedDigits width n ≠ [] := by
  rw [paddedDigits]
  exact List.append_ne_nil_of_right_ne_nil _ (digits_ne_nil n)

theorem length_paddedDigits {width n : Nat} (hWidth : 0 < width) (h : n < 10 ^ width) :
    (paddedDigits width n).length = width := by
  rw [paddedDigits, List.length_append, List.length_replicate]
  exact Nat.sub_add_cancel ((length_digits_le_iff hWidth).mpr h)

theorem foldl_paddedDigits (width n : Nat) :
    (paddedDigits width n).foldl (fun n d => n * 10 + digitValue d) 0 = n := by
  rw [paddedDigits, foldl_eq_ofDigitChars, Nat.ofDigitChars_append,
    Nat.ofDigitChars_replicate_zero, Nat.mul_zero, ← foldl_eq_ofDigitChars, foldl_digits]

/-! ## Digits in front of a text -/

/-- The text does not go on with a digit. -/
def EndsNumber (rest : List Char) : Prop :=
  ∀ c ∈ rest.head?, c.isDigit = false

theorem endsNumber_cons {c : Char} {rest : List Char} (h : c.isDigit = false) :
    EndsNumber (c :: rest) := by
  rintro _ ⟨⟩
  exact h

/-- Every text starts with its digits, if it has any. -/
theorem exists_digits_append (cs : List Char) :
    ∃ ds rest, cs = ds ++ rest ∧ (∀ c ∈ ds, c.isDigit = true) ∧ EndsNumber rest := by
  refine ⟨cs.takeWhile Char.isDigit, cs.dropWhile Char.isDigit,
    List.takeWhile_append_dropWhile.symm, fun c hc => ?_, fun c hc => ?_⟩
  · exact List.all_eq_true.mp List.all_takeWhile c hc
  · have hNot := List.head?_dropWhile_not Char.isDigit cs
    rw [Option.mem_def.mp hc] at hNot
    simpa using hNot

section

variable {ds rest : List Char} (hDigits : ∀ c ∈ ds, c.isDigit = true) (hRest : EndsNumber rest)

include hDigits hRest

theorem takeWhile_isDigit_append : (ds ++ rest).takeWhile Char.isDigit = ds := by
  rw [List.takeWhile_append_of_pos hDigits]
  cases rest with
  | nil => rw [List.takeWhile_nil, List.append_nil]
  | cons c cs => rw [List.takeWhile_cons_of_neg (by simp [hRest c rfl]), List.append_nil]

theorem dropWhile_isDigit_append : (ds ++ rest).dropWhile Char.isDigit = rest := by
  rw [List.dropWhile_append_of_pos hDigits]
  cases rest with
  | nil => rfl
  | cons c cs => exact List.dropWhile_cons_of_neg (by simp [hRest c rfl])

end

end AnchorQueue.Text
