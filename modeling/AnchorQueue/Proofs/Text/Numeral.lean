import AnchorQueue.Proofs.Text.Decimal
import AnchorQueue.Proofs.Text.Trim

/-!
# Reading numbers

A number is read from at least one digit, after a plus sign or not, as long as it stays below a
bound. What is wrong otherwise shows from left to right: a digit that makes the number too large
counts even if something else than a digit comes later.
-/

namespace AnchorQueue.Text

/-- The digits of the number, also with zeros in front. -/
structure Spells (ds : List Char) (n : Nat) : Prop where
  nonempty : ds ≠ []
  digits : ∀ c ∈ ds, c.isDigit = true
  value : Nat.ofDigitChars 10 ds 0 = n

def afterSign : List Char → List Char
  | '+' :: cs => cs
  | cs => cs

/-- What comes of reading a number below the bound. -/
inductive Reads (bound : Nat) (cs : List Char) : Except NumeralFault Nat → Prop
  | empty (hEmpty : cs = []) : Reads bound cs (.error .empty)
  | number {n : Nat} (hSpells : Spells (afterSign cs) n) (hBound : n < bound) :
    Reads bound cs (.ok n)
  | tooLarge {ds rest : List Char} (hSplit : afterSign cs = ds ++ rest)
    (hDigits : ∀ c ∈ ds, c.isDigit = true) (hBound : bound ≤ Nat.ofDigitChars 10 ds 0) :
    Reads bound cs (.error .tooLarge)
  | invalidDigit {ds rest : List Char} (hSome : cs ≠ []) (hSplit : afterSign cs = ds ++ rest)
    (hDigits : ∀ c ∈ ds, c.isDigit = true) (hBound : Nat.ofDigitChars 10 ds 0 < bound)
    (hEnds : EndsNumber rest) (hStops : ds = [] ∨ rest ≠ []) :
    Reads bound cs (.error .invalidDigit)

/-- What comes of reading a text after trimming it. -/
def ReadsTrimmed (bound : Nat) (raw : String) (result : Except NumeralFault Nat) : Prop :=
  ∃ cs, Trims raw.toList cs ∧ Reads bound cs result

section

variable {bound acc : Nat} {ds rest : List Char} {excess : NumeralFault}

theorem readDigits_append_of_lt (hDigits : ∀ c ∈ ds, c.isDigit = true)
    (hValue : ds.foldl (fun n d => n * 10 + digitValue d) acc < bound) :
    readDigits bound excess acc (ds ++ rest) =
      readDigits bound excess (ds.foldl (fun n d => n * 10 + digitValue d) acc) rest := by
  induction ds generalizing acc with
  | nil => rfl
  | cons d ds ih =>
    obtain ⟨hd, hRest⟩ := List.forall_mem_cons.mp hDigits
    rw [List.foldl_cons] at hValue
    have hNext := Nat.lt_of_le_of_lt (le_foldl_digitValue ds _) hValue
    simp only [List.cons_append, readDigits, hd, if_true, hNext, List.foldl_cons]
    exact ih hRest hValue

theorem readDigits_append_of_le (hDigits : ∀ c ∈ ds, c.isDigit = true) (hAcc : acc < bound)
    (hValue : bound ≤ ds.foldl (fun n d => n * 10 + digitValue d) acc) :
    readDigits bound excess acc (ds ++ rest) = .error excess := by
  induction ds generalizing acc with
  | nil => exact absurd hAcc (Nat.not_lt.mpr hValue)
  | cons d ds ih =>
    obtain ⟨hd, hRest⟩ := List.forall_mem_cons.mp hDigits
    simp only [List.cons_append, readDigits, hd, if_true]
    split
    · exact ih hRest (by assumption) hValue
    · rfl

theorem readDigits_of_endsNumber (hEnds : EndsNumber rest) (hSome : rest ≠ []) :
    readDigits bound excess acc rest = .error .invalidDigit := by
  cases rest with
  | nil => exact absurd rfl hSome
  | cons c cs => simp [readDigits, hEnds c rfl]

end

variable {bound : Nat} {cs : List Char} {result : Except NumeralFault Nat}

theorem readNumeral_of_ne_nil {excess : NumeralFault} (h : cs ≠ []) :
    readNumeral bound excess cs = readDigits bound excess 0 cs := by
  cases cs with
  | nil => exact absurd rfl h
  | cons c cs => rfl

theorem readNatural_of_ne_nil (h : cs ≠ []) :
    readNatural bound cs = readNumeral bound .tooLarge (afterSign cs) := by
  fun_cases readNatural bound cs with
  | case1 => exact absurd rfl h
  | case2 cs => rfl
  | case3 c cs hPlus =>
    rw [afterSign]
    rintro cs ⟨⟩
    exact hPlus rfl

theorem readNatural_of_reads (hBound : 0 < bound) (h : Reads bound cs result) :
    readNatural bound cs = result := by
  cases h with
  | empty hEmpty =>
    rw [hEmpty]
    rfl
  | number hSpells hLess =>
    obtain ⟨hNonempty, hDigits, hValue⟩ := hSpells
    rw [← foldl_eq_ofDigitChars] at hValue
    have hSome : cs ≠ [] := by
      rintro rfl
      exact hNonempty rfl
    rw [readNatural_of_ne_nil hSome, readNumeral_of_ne_nil hNonempty,
      ← List.append_nil (afterSign cs), readDigits_append_of_lt hDigits (hValue.symm ▸ hLess),
      hValue, readDigits]
  | @tooLarge ds rest hSplit hDigits hMore =>
    rw [← foldl_eq_ofDigitChars] at hMore
    have hNonempty : ds ++ rest ≠ [] := by
      intro hNil
      obtain ⟨rfl, rfl⟩ := List.append_eq_nil_iff.mp hNil
      exact absurd hBound (Nat.not_lt.mpr hMore)
    have hSome : cs ≠ [] := by
      rintro rfl
      exact hNonempty hSplit.symm
    rw [readNatural_of_ne_nil hSome, hSplit, readNumeral_of_ne_nil hNonempty,
      readDigits_append_of_le hDigits hBound hMore]
  | @invalidDigit ds rest hSome hSplit hDigits hLess hEnds hStops =>
    rw [← foldl_eq_ofDigitChars] at hLess
    rw [readNatural_of_ne_nil hSome, hSplit]
    cases rest with
    | nil =>
      obtain rfl := hStops.resolve_right (not_not_intro rfl)
      rfl
    | cons c cs =>
      have hRest := List.cons_ne_nil c cs
      rw [readNumeral_of_ne_nil (List.append_ne_nil_of_right_ne_nil ds hRest),
        readDigits_append_of_lt hDigits hLess, readDigits_of_endsNumber hEnds hRest]

theorem exists_reads (bound : Nat) (cs : List Char) : ∃ result, Reads bound cs result := by
  obtain ⟨ds, rest, hSplit, hDigits, hEnds⟩ := exists_digits_append (afterSign cs)
  by_cases hSome : cs = []
  · exact ⟨_, .empty hSome⟩
  rcases Nat.lt_or_ge (Nat.ofDigitChars 10 ds 0) bound with hLess | hMore
  · by_cases hStops : ds = [] ∨ rest ≠ []
    · exact ⟨_, .invalidDigit hSome hSplit hDigits hLess hEnds hStops⟩
    · obtain ⟨hNonempty, hRest⟩ := not_or.mp hStops
      rw [Classical.not_not.mp hRest, List.append_nil] at hSplit
      have hSpells : Spells ds (Nat.ofDigitChars 10 ds 0) := ⟨hNonempty, hDigits, rfl⟩
      rw [← hSplit] at hSpells
      exact ⟨_, .number hSpells (hSplit ▸ hLess)⟩
  · exact ⟨_, .tooLarge hSplit hDigits hMore⟩

theorem reads_iff (hBound : 0 < bound) : Reads bound cs result ↔ readNatural bound cs = result := by
  constructor
  · exact readNatural_of_reads hBound
  · rintro rfl
    obtain ⟨result, hReads⟩ := exists_reads bound cs
    rwa [readNatural_of_reads hBound hReads]

theorem readsTrimmed_iff (hBound : 0 < bound) {raw : String} :
    ReadsTrimmed bound raw result ↔ readNatural bound (trimChars raw.toList) = result := by
  simp only [ReadsTrimmed, trims_iff, reads_iff hBound, exists_eq_left']

end AnchorQueue.Text
