/-!
# Sets of characters

A set is a list of closed ranges of code points.
-/

namespace AnchorQueue.Text

abbrev CharSet := List (Nat × Nat)

def CharSet.has (s : CharSet) (c : Char) : Bool :=
  s.any fun r => r.1 ≤ c.toNat && c.toNat ≤ r.2

theorem CharSet.has_iff (s : CharSet) (c : Char) :
    s.has c ↔ ∃ r ∈ s, r.1 ≤ c.toNat ∧ c.toNat ≤ r.2 := by
  simp [CharSet.has]

end AnchorQueue.Text
