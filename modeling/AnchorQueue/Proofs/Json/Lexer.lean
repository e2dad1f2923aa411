import AnchorQueue.Json.Lexer
import AnchorQueue.Proofs.Text.Decimal
import Mathlib.Data.List.Forall2
import Mathlib.Tactic.SplitIfs

/-!
# Written lexemes are read back

A written text is scanned to its characters, whatever they are, and a written number below 2 ^ 64 to
its value, when no character follows that could belong to it. So lexemes of which every number is
followed by a mark, or by nothing, give their own tokens.
-/

namespace AnchorQueue

theorem Text.hexValue?_hexDigit {n : Nat} (h : n < 16) : hexValue? (hexDigit n) = some n := by
  have hAll : ∀ n < 16, hexValue? (hexDigit n) = some n := by decide
  exact hAll n h

namespace Json

open AnchorQueue.Text

/-! ## Texts -/

/-- The piece stands for the character: itself, or the code unit of a control. -/
inductive Piece.Shows : Piece → Char → Prop
  | scalar (c : Char) : Shows (.scalar c) c
  | control {c : Char} (h : c.toNat < 0x20) : Shows (.unit c.toNat) c

namespace TextScan

theorem codeUnit?_hexDigits {n : Nat} (h : n < 256) :
    codeUnit? '0' '0' (hexDigit (n / 16)) (hexDigit (n % 16)) = some n := by
  have hZero : hexValue? '0' = some 0 := by decide
  have hValue : ((0 * 16 + 0) * 16 + n / 16) * 16 + n % 16 = n := by omega
  simp only [codeUnit?, hZero, hexValue?_hexDigit (show n / 16 < 16 by omega),
    hexValue?_hexDigit (show n % 16 < 16 by omega), Option.bind_eq_bind, Option.bind_some, hValue]
  rfl

theorem scan_quote (cs : List Char) : scan ('"' :: cs) = ⟨[], .ok cs⟩ := by
  rw [scan.eq_def]
  rfl

theorem scan_plain {c : Char} (hQuote : c ≠ '"') (hBackslash : c ≠ '\\')
    (hControl : ¬c.toNat < 0x20) (cs : List Char) :
    scan (c :: cs) = (scan cs).cons (.scalar c) := by
  rw [scan.eq_def]
  simp only [if_neg hQuote, if_neg hBackslash, if_neg hControl]

theorem scan_short {e c : Char} (hUnit : e ≠ 'u') (h : escaped? e = some c) (cs : List Char) :
    scan ('\\' :: e :: cs) = (scan cs).cons (.scalar c) := by
  have hQuote : '\\' ≠ '"' := by decide
  rw [scan.eq_def]
  simp only [if_neg hQuote, if_pos, if_neg hUnit, h]

theorem scan_long {n : Nat} {a b c d : Char} (h : codeUnit? a b c d = some n) (cs : List Char) :
    scan ('\\' :: 'u' :: a :: b :: c :: d :: cs) = (scan cs).cons (.unit n) := by
  have hQuote : '\\' ≠ '"' := by decide
  rw [scan.eq_def]
  simp only [if_neg hQuote, if_pos, h]

theorem scan_escapeChar (c : Char) (cs : List Char) :
    ∃ p : Piece, p.Shows c ∧ scan (escapeChar c ++ cs) = (scan cs).cons p := by
  rw [escapeChar]
  split_ifs with hQuote hBackslash hBack hForm hLine hReturn hTab hControl
  case pos | pos | pos | pos | pos | pos | pos =>
    subst c
    exact ⟨_, .scalar _, scan_short (by decide) (by decide) cs⟩
  · exact ⟨_, .control hControl, scan_long (codeUnit?_hexDigits (by omega)) cs⟩
  · exact ⟨_, .scalar c, scan_plain hQuote hBackslash hControl cs⟩

/-- What is scanned are pieces that stand for the characters, one for each. -/
theorem scan_flatMap_escapeChar (cs rest : List Char) :
    ∃ pieces, List.Forall₂ Piece.Shows pieces cs ∧
      scan (cs.flatMap escapeChar ++ '"' :: rest) = ⟨pieces, .ok rest⟩ := by
  induction cs with
  | nil => exact ⟨[], .nil, scan_quote rest⟩
  | cons c cs ih =>
    obtain ⟨pieces, hShow, hScan⟩ := ih
    obtain ⟨p, hp, hFirst⟩ := scan_escapeChar c (cs.flatMap escapeChar ++ '"' :: rest)
    refine ⟨p :: pieces, .cons hp hShow, ?_⟩
    rw [List.flatMap_cons, List.append_assoc, hFirst, hScan]
    rfl

theorem chars_of_shows {pieces : List Piece} {cs : List Char}
    (h : List.Forall₂ Piece.Shows pieces cs) : chars (.ok ()) pieces = .ok cs := by
  induction h with
  | nil => rfl
  | @cons p c pieces cs hp _ ih =>
    cases hp with
    | scalar =>
      rw [chars, ih]
      rfl
    | control hControl =>
      -- The code unit of a control is no half of a surrogate pair.
      have hLow : isLow c.toNat = false := by
        simp only [isLow, Bool.and_eq_false_iff, decide_eq_false_iff_not]
        omega
      have hHigh : isHigh c.toNat = false := by
        simp only [isHigh, Bool.and_eq_false_iff, decide_eq_false_iff_not]
        omega
      rw [chars.eq_def]
      simp only [hLow, hHigh, Bool.false_eq_true, if_false, ih, Char.ofNat_toNat]
      rfl

end TextScan

theorem tokenAt_writeText (s : String) (rest : List Char) :
    tokenAt '"' (s.toList.flatMap escapeChar ++ '"' :: rest) =
      (.text (.ok s) (.ok ()), .ok rest) := by
  obtain ⟨pieces, hShow, hScan⟩ := TextScan.scan_flatMap_escapeChar s.toList rest
  have hNoMark : Mark.ofChar? '"' = none := by decide
  rw [tokenAt, hNoMark, hScan]
  simp [TextScan.token, TextScan.value, TextScan.form, Except.map, TextScan.chars_of_shows hShow]

/-! ## Numbers -/

/-- The text does not go on with a character that could belong to a number. -/
def EndsNumeral (rest : List Char) : Prop :=
  ∀ c ∈ rest.head?, c.isDigit = false ∧ c ≠ '.' ∧ c ≠ 'e' ∧ c ≠ 'E'

theorem EndsNumeral.endsNumber {rest : List Char} (h : EndsNumeral rest) : EndsNumber rest :=
  fun c hc => (h c hc).1

namespace Numeral

variable {rest : List Char} {n : Nat}

theorem scanDigits_digits (n : Nat) (h : EndsNumeral rest) :
    scanDigits (digits n ++ rest) = .ok (digits n, rest) := by
  simp only [scanDigits, takeWhile_isDigit_append (fun _ => isDigit_of_mem_digits) h.endsNumber,
    dropWhile_isDigit_append (fun _ => isDigit_of_mem_digits) h.endsNumber,
    if_neg (digits_ne_nil n)]

theorem scanWhole_digits (n : Nat) (h : EndsNumeral rest) :
    scanWhole (digits n ++ rest) = .ok (digits n, rest) := by
  have hScan := scanDigits_digits n h
  obtain ⟨d, ds, hDigits⟩ := List.exists_cons_of_ne_nil (digits_ne_nil n)
  rw [hDigits, List.cons_append] at hScan ⊢
  by_cases hZero : d = '0'
  · -- A zero is the only digit, so what follows it is the rest.
    subst d
    cases eq_nil_of_digits_eq hDigits
    have hNoDigit : (rest.head?.map Char.isDigit).getD false = false := by
      cases rest with
      | nil => rfl
      | cons c cs => exact (h c rfl).1
    rw [List.nil_append, scanWhole, hNoDigit]
    rfl
  · rw [scanWhole, hScan]
    rintro cs ⟨⟩
    exact hZero rfl

theorem scanFraction_of_ends (h : EndsNumeral rest) : scanFraction rest = .ok ([], rest) := by
  rw [scanFraction]
  rintro cs rfl
  exact (h '.' rfl).2.1 rfl

theorem scanExponent_of_ends (h : EndsNumeral rest) : scanExponent rest = .ok (none, rest) := by
  cases rest with
  | nil => rfl
  | cons c cs => simp [scanExponent, h c rfl]

theorem scan_digits (n : Nat) (h : EndsNumeral rest) :
    scan (digits n ++ rest) = .ok (⟨false, digits n, [], none⟩, rest) := by
  have hUnsigned : scanUnsigned false (digits n ++ rest) =
      .ok (⟨false, digits n, [], none⟩, rest) := by
    rw [scanUnsigned, scanWhole_digits n h]
    simp only [bind, Except.bind, scanFraction_of_ends h, scanExponent_of_ends h]
    rfl
  rw [scan, hUnsigned]
  intro cs hMinus
  obtain ⟨d, ds, hDigits⟩ := List.exists_cons_of_ne_nil (digits_ne_nil n)
  have hFirst : d.isDigit = true := isDigit_of_mem_digits (hDigits ▸ List.mem_cons_self)
  rw [hDigits] at hMinus
  cases hMinus
  cases hFirst

theorem fitting_of_lt {acc : Nat} {ds : List Char}
    (h : ds.foldl (fun n d => n * 10 + digitValue d) acc < UInt64.size) :
    fitting acc ds = (ds.foldl (fun n d => n * 10 + digitValue d) acc, []) := by
  induction ds generalizing acc with
  | nil => rfl
  | cons d ds ih =>
    rw [List.foldl_cons] at h ⊢
    simp only [fitting, if_pos (Nat.lt_of_le_of_lt (le_foldl_digitValue ds _) h)]
    exact ih h

theorem value_digits (h : n < UInt64.size) :
    value ⟨false, digits n, [], none⟩ = .ok (some n) := by
  have hValue : digitsValue (digits n) = n := foldl_digits n
  have hFitting : fitting 0 (digits n) = (n, []) := by
    rw [fitting_of_lt (by rwa [foldl_digits]), foldl_digits]
  have hInRange : isOutOfRange ⟨false, digits n, [], none⟩ = false := by
    simp [isOutOfRange, hFitting, fitting, exceedsDouble]
  simp [value, hInRange, natural?, hValue, h]

theorem token_digits (h : n < UInt64.size) (hRest : EndsNumeral rest) :
    token (digits n ++ rest) = (.number (.ok (some n)) (.ok ()), .ok rest) := by
  rw [token, scan_digits n hRest]
  simp only [value_digits h]

end Numeral

/-! ## Lexemes -/

theorem Mark.ofChar?_of_isDigit {c : Char} (h : c.isDigit = true) : Mark.ofChar? c = none := by
  rw [Mark.ofChar?, List.find?_eq_none]
  intro m _ hm
  obtain rfl : m.char = c := of_decide_eq_true hm
  cases m <;> cases h

theorem endsNumeral_mark (m : Mark) (rest : List Char) : EndsNumeral (m.char :: rest) := by
  rintro _ ⟨⟩
  cases m <;> decide

theorem lex_cons {c : Char} {cs rest : List Char} {t : Token} (hSpace : isSpace c = false)
    (h : tokenAt c cs = (t, .ok rest)) : lex (c :: cs) = t :: lex rest := by
  rw [lex, if_neg (by simp [hSpace])]
  split
  · rename_i rest' hRest
    rw [h] at hRest
    cases hRest
    rw [h]
  · rename_i f hRest
    rw [h] at hRest
    cases hRest

theorem lex_mark (m : Mark) (rest : List Char) :
    lex (m.char :: rest) = .mark m :: lex rest := by
  apply lex_cons
  · cases m <;> decide
  · rw [tokenAt, Mark.ofChar?_char]

theorem lex_null (rest : List Char) :
    lex (['n', 'u', 'l', 'l'] ++ rest) = .null (.ok ()) :: lex rest :=
  lex_cons (by decide) rfl

theorem lex_text (s : String) (rest : List Char) :
    lex (writeText s ++ rest) = .text (.ok s) (.ok ()) :: lex rest := by
  simp only [writeText, List.cons_append, List.append_assoc, List.nil_append]
  exact lex_cons (by decide) (tokenAt_writeText s rest)

theorem lex_number {n : Nat} (h : n < UInt64.size) {rest : List Char} (hRest : EndsNumeral rest) :
    lex (digits n ++ rest) = .number (.ok (some n)) (.ok ()) :: lex rest := by
  have hToken := Numeral.token_digits h hRest
  obtain ⟨d, ds, hDigits⟩ := List.exists_cons_of_ne_nil (digits_ne_nil n)
  have hFirst : d.isDigit = true := isDigit_of_mem_digits (hDigits ▸ List.mem_cons_self)
  have hQuote : d ≠ '"' := by
    rintro rfl
    cases hFirst
  rw [hDigits, List.cons_append] at hToken ⊢
  apply lex_cons
  · simp only [isSpace, Bool.or_eq_false_iff, decide_eq_false_iff_not]
    refine ⟨⟨⟨?_, ?_⟩, ?_⟩, ?_⟩ <;> rintro rfl <;> cases hFirst
  · rw [tokenAt, Mark.ofChar?_of_isDigit hFirst]
    simp only [if_neg hQuote, hFirst, Bool.or_true, if_true, hToken]

/-- No value comes first. -/
def StartsWithMark (ls : List Lexeme) : Prop :=
  ∀ l ∈ ls.head?, ∃ m, l = .mark m

theorem startsWithMark_cons (m : Mark) (ls : List Lexeme) : StartsWithMark (.mark m :: ls) := by
  rintro _ ⟨⟩
  exact ⟨m, rfl⟩

/-- Every number is below 2 ^ 64, and no value comes right after it. -/
def Spaced : List Lexeme → Prop
  | [] => True
  | .number n :: ls => n < UInt64.size ∧ StartsWithMark ls ∧ Spaced ls
  | _ :: ls => Spaced ls

theorem Spaced.append {xs ys : List Lexeme} (hx : Spaced xs) (hMark : StartsWithMark ys)
    (hy : Spaced ys) : Spaced (xs ++ ys) := by
  induction xs with
  | nil => exact hy
  | cons l xs ih =>
    cases l with
    | number n =>
      obtain ⟨hSize, hNext, hRest⟩ := hx
      refine ⟨hSize, ?_, ih hRest⟩
      cases xs with
      | nil => exact hMark
      | cons k xs => exact hNext
    | mark | null | text => exact ih hx

theorem endsNumeral_writeLexemes {ls : List Lexeme} (h : StartsWithMark ls) :
    EndsNumeral (writeLexemes ls) := by
  cases ls with
  | nil => nofun
  | cons l ls =>
    obtain ⟨m, rfl⟩ := h l rfl
    exact endsNumeral_mark m (writeLexemes ls)

theorem lex_writeLexemes {ls : List Lexeme} (h : Spaced ls) :
    lex (writeLexemes ls) = ls.map Lexeme.token := by
  induction ls with
  | nil =>
    rw [writeLexemes, List.flatMap_nil, lex]
    rfl
  | cons l ls ih =>
    rw [writeLexemes, List.flatMap_cons, ← writeLexemes, List.map_cons]
    cases l with
    | mark m => rw [← ih h]; exact lex_mark m _
    | null => rw [← ih h]; exact lex_null _
    | text s => rw [← ih h]; exact lex_text s _
    | number n =>
      obtain ⟨hSize, hNext, hRest⟩ := h
      rw [← ih hRest]
      exact lex_number hSize (endsNumeral_writeLexemes hNext)

end Json

end AnchorQueue
