import AnchorQueue.Proofs.Text.Trim
import AnchorQueue.Query.PathSegment

/-!
# Which identifiers pass

A text comes through the check of a path segment as it is, or without the white space at its edges.
It passes exactly if something is left of it that holds no slash and no two dots in a row.
-/

namespace AnchorQueue

namespace Text

/-- White space at the start or at the end. -/
def HasWhiteEdge (text : String) : Prop :=
  ∃ c, (text.toList.head? = some c ∨ text.toList.getLast? = some c) ∧ isWhite c = true

theorem trim_eq_self_iff {text : String} : trim text = text ↔ ¬HasWhiteEdge text := by
  have hChars : trim text = text ↔ trimChars text.toList = text.toList := by
    rw [trim]
    constructor
    · intro h
      rw [← String.toList_ofList (l := trimChars text.toList), h]
    · intro h
      rw [h, String.ofList_toList]
  rw [hChars, trimChars_eq_self_iff, BareEdges, HasWhiteEdge, not_exists]
  simp only [not_and, Bool.not_eq_true]

instance (text : String) : Decidable (HasWhiteEdge text) :=
  decidable_of_iff (trim text ≠ text) (not_iff_comm.mp trim_eq_self_iff.symm)

end Text

namespace PathSegment

/-- The text leads to another place. -/
def Climbs (text : String) : Prop :=
  '/' ∈ text.toList ∨ ['.', '.'] <:+: text.toList

theorem climbs_iff {cs : List Char} :
    climbs cs = true ↔ '/' ∈ cs ∨ ['.', '.'] <:+: cs := by
  fun_induction climbs cs with
  | case1 => simp
  | case2 cs => simp
  | case3 cs => simpa using Or.inr (List.prefix_append ['.', '.'] cs).isInfix
  | case4 c cs hSlash hDots ih =>
    have hStart : ¬['.', '.'] <+: c :: cs := by
      rintro ⟨rest, hRest⟩
      cases hRest
      exact hDots rest rfl rfl
    rw [ih, List.mem_cons, List.infix_cons_iff]
    have hHead : '/' ≠ c := fun h => hSlash h.symm
    simp [hStart, hHead]

instance (text : String) : Decidable (Climbs text) :=
  decidable_of_iff (climbs text.toList = true) climbs_iff

theorem check_of_empty {text : String} (h : Text.trim text = "") (field : String) :
    check field text = .error (.invalidRequest ("missing " ++ field)) :=
  if_pos h

theorem check_of_climbs {text : String} (h : Text.trim text ≠ "")
    (hClimbs : Climbs (Text.trim text)) (field : String) : check field text =
      .error (.invalidRequest ("invalid " ++ field ++ ": path traversal characters not allowed")) :=
  (if_neg h).trans (if_pos (climbs_iff.mpr hClimbs))

theorem check_of_stays {text : String} (h : Text.trim text ≠ "")
    (hStays : ¬Climbs (Text.trim text)) (field : String) :
    check field text = .ok (Text.trim text) :=
  (if_neg h).trans (if_neg fun hTrue => hStays (climbs_iff.mp hTrue))

theorem check_eq_ok_iff {field text segment : String} : check field text = .ok segment ↔
    Text.trim text = segment ∧ Text.isBlank text = false ∧ ¬Climbs segment := by
  rw [← Bool.not_eq_true, Text.isBlank_iff_trim_eq_empty]
  by_cases hEmpty : Text.trim text = ""
  · simp [check_of_empty hEmpty, hEmpty]
  by_cases hClimbs : Climbs (Text.trim text)
  · rw [check_of_climbs hEmpty hClimbs]
    constructor
    · rintro ⟨⟩
    · rintro ⟨rfl, _, hStays⟩
      exact absurd hClimbs hStays
  · rw [check_of_stays hEmpty hClimbs, Except.ok.injEq]
    constructor
    · rintro rfl
      exact ⟨rfl, hEmpty, hClimbs⟩
    · exact fun h => h.1

end PathSegment

end AnchorQueue
