import AnchorQueue.Text.Blank
import Mathlib.Data.List.DropRight

/-!
# What trimming leaves

Trimming takes white space from both edges of a text until none is left there.
-/

namespace AnchorQueue.Text

/-- No white space at the start or at the end. -/
def BareEdges (cs : List Char) : Prop :=
  ∀ c, cs.head? = some c ∨ cs.getLast? = some c → isWhite c = false

/-- The characters stand between white space and have none at their own edges. -/
structure Trims (raw cs : List Char) : Prop where
  surrounded : ∃ before after, raw = before ++ cs ++ after ∧ ∀ c ∈ before ++ after, isWhite c = true
  bare : BareEdges cs

theorem isWhite_of_isDigit {c : Char} (h : c.isDigit = true) : isWhite c = false := by
  obtain ⟨hZero, hNine⟩ : 48 ≤ c.toNat ∧ c.toNat ≤ 57 := Char.isDigit_iff_toNat.mp h
  rw [← Bool.not_eq_true, isWhite, CharSet.has_iff]
  rintro ⟨r, hr, hLow, hHigh⟩
  simp only [whiteSpace, List.mem_cons, List.not_mem_nil, or_false] at hr
  rcases hr with rfl | rfl | rfl | rfl | rfl | rfl | rfl | rfl | rfl | rfl <;> omega

theorem skipWhite_cons {c : Char} (h : isWhite c = false) (cs : List Char) :
    skipWhite (c :: cs) = c :: cs :=
  List.dropWhile_cons_of_neg (by simp [h])

theorem trimChars_eq_rdropWhile (cs : List Char) :
    trimChars cs = (skipWhite cs).rdropWhile isWhite := rfl

theorem trimChars_of_bareEdges {cs : List Char} (h : BareEdges cs) : trimChars cs = cs := by
  have hSkip : skipWhite cs = cs := by
    apply List.dropWhile_eq_self_iff.mpr
    intro hPos
    simpa using h cs[0] (Or.inl (List.head?_eq_getElem? ▸ List.getElem?_eq_getElem hPos))
  rw [trimChars_eq_rdropWhile, hSkip]
  apply List.rdropWhile_eq_self_iff.mpr
  intro hNe
  simpa using h (cs.getLast hNe) (Or.inr (List.getLast?_eq_some_getLast hNe))

theorem bareEdges_trimChars (cs : List Char) : BareEdges (trimChars cs) := by
  rw [trimChars_eq_rdropWhile]
  rintro c (hHead | hLast)
  · have hFirst : (skipWhite cs).head? = some c := by
      obtain ⟨rest, hRest⟩ := List.head?_eq_some_iff.mp hHead
      obtain ⟨after, hAfter⟩ := List.rdropWhile_prefix isWhite (skipWhite cs)
      rw [← hAfter, hRest]
      rfl
    have hNot := List.head?_dropWhile_not isWhite cs
    rw [skipWhite] at hFirst
    simpa [hFirst] using hNot
  · have hNe : (skipWhite cs).rdropWhile isWhite ≠ [] := by
      rintro hNil
      rw [hNil] at hLast
      cases hLast
    have hNot := List.rdropWhile_last_not isWhite (skipWhite cs) hNe
    rw [List.getLast?_eq_some_getLast hNe, Option.some.injEq] at hLast
    simpa [hLast] using hNot

theorem trims_trimChars (raw : List Char) : Trims raw (trimChars raw) where
  surrounded := by
    refine ⟨raw.takeWhile isWhite, (skipWhite raw).rtakeWhile isWhite, ?_, ?_⟩
    · rw [trimChars_eq_rdropWhile, List.append_assoc, List.rdropWhile_append_rtakeWhile, skipWhite,
        List.takeWhile_append_dropWhile]
    · intro c hc
      rcases List.mem_append.mp hc with hBefore | hAfter
      · exact List.mem_takeWhile_imp hBefore
      · exact List.mem_rtakeWhile_imp hAfter
  bare := bareEdges_trimChars raw

theorem rdropWhile_append_white {after : List Char} (h : ∀ c ∈ after, isWhite c = true)
    (cs : List Char) : (cs ++ after).rdropWhile isWhite = cs.rdropWhile isWhite := by
  have hReverse : ∀ c ∈ after.reverse, isWhite c = true := by simpa using h
  rw [List.rdropWhile, List.reverse_append, List.dropWhile_append_of_pos hReverse, List.rdropWhile]

theorem Trims.trimChars_eq {raw cs : List Char} (h : Trims raw cs) : trimChars raw = cs := by
  obtain ⟨before, after, rfl, hWhite⟩ := h.surrounded
  obtain ⟨hBefore, hAfter⟩ := List.forall_mem_append.mp hWhite
  cases cs with
  | nil =>
    rw [trimChars_eq_nil_iff, List.all_eq_true, List.append_nil]
    exact hWhite
  | cons c cs =>
    have hFirst : isWhite c = false := h.bare c (Or.inl rfl)
    calc trimChars (before ++ c :: cs ++ after)
        = (skipWhite (c :: (cs ++ after))).rdropWhile isWhite := by
          rw [trimChars_eq_rdropWhile, List.append_assoc, skipWhite,
            List.dropWhile_append_of_pos hBefore]
          rfl
      _ = (c :: cs ++ after).rdropWhile isWhite := by
          rw [skipWhite_cons hFirst, List.cons_append]
      _ = (skipWhite (c :: cs)).rdropWhile isWhite := by
          rw [rdropWhile_append_white hAfter, skipWhite_cons hFirst]
      _ = c :: cs := trimChars_of_bareEdges h.bare

theorem trims_iff {raw cs : List Char} : Trims raw cs ↔ trimChars raw = cs := by
  constructor
  · exact Trims.trimChars_eq
  · rintro rfl
    exact trims_trimChars raw

theorem trimChars_eq_self_iff {cs : List Char} : trimChars cs = cs ↔ BareEdges cs := by
  constructor
  · intro h
    rw [← h]
    exact bareEdges_trimChars cs
  · exact trimChars_of_bareEdges

end AnchorQueue.Text
