import AnchorQueue.Ledger.FormEncoding
import AnchorQueue.Proofs.Text.Utf8
import Mathlib.Data.List.Forall2

/-!
# Written forms

A text has many written forms: each character may stand for itself, unless it has a meaning of its
own, or as the escapes of its bytes, and a space also as a plus sign. All of them are read as the
same text, and a form is read as the pairs of its pieces, of which the empty ones count for nothing.
-/

namespace AnchorQueue

theorem Text.split_eq_splitOn (separator : Char) (cs : List Char) :
    split separator cs = cs.splitOn separator := by
  induction cs with
  | nil => rfl
  | cons c cs ih =>
    rw [split, List.splitOn_cons_eq_if_modifyHead, ih]
    obtain ⟨p, ps, hParts⟩ := List.exists_cons_of_ne_nil (List.splitOn_ne_nil separator cs)
    rw [hParts]
    by_cases h : c = separator <;> simp [h]

theorem Text.split_append_cons (separator : Char) (cs rest : List Char) :
    split separator (cs ++ separator :: rest) = split separator cs ++ split separator rest := by
  simp only [split_eq_splitOn]
  exact List.splitOnP_append_cons cs rest (beq_self_eq_true separator)

namespace Ledger.Form

open AnchorQueue.Text

/-! ## Values -/

/-- The character is the digit of a value below sixteen, in lower or in upper case. -/
def IsDigit (c : Char) (n : Nat) : Prop :=
  "0123456789abcdef".toList[n]? = some c ∨ "0123456789ABCDEF".toList[n]? = some c

instance (c : Char) (n : Nat) : Decidable (IsDigit c n) :=
  inferInstanceAs (Decidable (_ ∨ _))

/-- The escapes of bytes. -/
inductive Escapes : List Char → List UInt8 → Prop
  | nil : Escapes [] []
  | cons {high low : Char} {b : UInt8} {cs : List Char} {bs : List UInt8}
    (hHigh : IsDigit high (b.toNat / 16)) (hLow : IsDigit low (b.toNat % 16))
    (hRest : Escapes cs bs) : Escapes ('%' :: high :: low :: cs) (b :: bs)

/-- The character has no meaning of its own in a value. -/
def IsLiteral (c : Char) : Prop :=
  c ≠ '&' ∧ c ≠ '+' ∧ c ≠ '%'

instance (c : Char) : Decidable (IsLiteral c) :=
  inferInstanceAs (Decidable (_ ∧ _))

/-- The first text is a written form of the second. -/
inductive Writes : List Char → List Char → Prop
  | nil : Writes [] []
  | literal {c : Char} {cs value : List Char} (hc : IsLiteral c) (hRest : Writes cs value) :
    Writes (c :: cs) (c :: value)
  | plus {cs value : List Char} (hRest : Writes cs value) : Writes ('+' :: cs) (' ' :: value)
  | escaped {c : Char} {escape cs value : List Char}
    (hEscape : Escapes escape (String.utf8EncodeChar c)) (hRest : Writes cs value) :
    Writes (escape ++ cs) (c :: value)

variable {c high low : Char} {cs escape value : List Char} {b : UInt8} {bs : List UInt8} {n : Nat}

theorem hexValue?_of_isDigit (h : IsDigit c n) : hexValue? c = some n := by
  have hAll : ∀ n < 16, "0123456789abcdef".toList[n]?.bind hexValue? = some n ∧
      "0123456789ABCDEF".toList[n]?.bind hexValue? = some n := by decide
  rcases h with h | h
  · obtain ⟨hLt, _⟩ := List.getElem?_eq_some_iff.mp h
    have hValue := (hAll n hLt).1
    rwa [h, Option.bind_some] at hValue
  · obtain ⟨hLt, _⟩ := List.getElem?_eq_some_iff.mp h
    have hValue := (hAll n hLt).2
    rwa [h, Option.bind_some] at hValue

/-- A digit is neither a separator nor the sign for a space. -/
theorem isLiteral_of_isDigit (h : IsDigit c n) : IsLiteral c := by
  have hNe : ∀ d, hexValue? d = none → c ≠ d := by
    rintro d hNone rfl
    cases (hexValue?_of_isDigit h).symm.trans hNone
  exact ⟨hNe '&' (by decide), hNe '+' (by decide), hNe '%' (by decide)⟩

theorem spaceForPlus_of_isLiteral (h : IsLiteral c) : spaceForPlus c = c :=
  if_neg h.2.1

theorem octets_cons (h : c ≠ '%') (cs : List Char) :
    Percent.octets (c :: cs) = String.utf8EncodeChar c ++ Percent.octets cs := by
  rw [Percent.octets]
  intro _ _ _ hPercent
  exact absurd hPercent h

theorem octets_escape (hHigh : IsDigit high (b.toNat / 16)) (hLow : IsDigit low (b.toNat % 16))
    (cs : List Char) :
    Percent.octets ('%' :: high :: low :: cs) = b :: Percent.octets cs := by
  have hByte : b.toNat / 16 * 16 + b.toNat % 16 = b.toNat := Nat.div_add_mod' b.toNat 16
  have hEscaped : Percent.escaped? high low = some b := by
    simp only [Percent.escaped?, hexValue?_of_isDigit hHigh, hexValue?_of_isDigit hLow,
      Option.bind_eq_bind, Option.bind_some, hByte]
    exact congrArg some UInt8.ofNat_toNat
  rw [Percent.octets, hEscaped]

theorem Escapes.octets_append (h : Escapes escape bs) (cs : List Char) :
    octets (escape ++ cs) = bs ++ octets cs := by
  induction h with
  | nil => rfl
  | cons hHigh hLow _ ih =>
    have hPlus : spaceForPlus '%' = '%' := rfl
    rw [octets, List.cons_append, List.cons_append, List.cons_append, List.map_cons, List.map_cons,
      List.map_cons, hPlus, spaceForPlus_of_isLiteral (isLiteral_of_isDigit hHigh),
      spaceForPlus_of_isLiteral (isLiteral_of_isDigit hLow), octets_escape hHigh hLow,
      ← octets, ih, List.cons_append]

theorem Writes.octets_eq (h : Writes cs value) : octets cs = Utf8.encode value := by
  induction h with
  | nil => rfl
  | literal hc _ ih =>
    rw [octets, List.map_cons, spaceForPlus_of_isLiteral hc, octets_cons hc.2.2, ← octets, ih]
    rfl
  | plus _ ih =>
    have hPlus : spaceForPlus '+' = ' ' := rfl
    rw [octets, List.map_cons, hPlus, octets_cons (by decide), ← octets, ih]
    rfl
  | escaped hEscape _ ih =>
    rw [hEscape.octets_append, ih]
    rfl

/-- Every written form of a text is read as this text. -/
theorem Writes.component_eq (h : Writes cs value) : component cs = String.ofList value := by
  rw [component, h.octets_eq, Utf8.decode_encode]

theorem Escapes.not_mem (h : Escapes escape bs) : '&' ∉ escape := by
  induction h with
  | nil => exact List.not_mem_nil
  | cons hHigh hLow _ ih =>
    simp only [List.mem_cons, not_or]
    exact ⟨by decide, (isLiteral_of_isDigit hHigh).1.symm, (isLiteral_of_isDigit hLow).1.symm, ih⟩

theorem Writes.not_mem (h : Writes cs value) : '&' ∉ cs := by
  induction h with
  | nil => exact List.not_mem_nil
  | literal hc _ ih => exact List.not_mem_cons_of_ne_of_not_mem hc.1.symm ih
  | plus _ ih => exact List.not_mem_cons_of_ne_of_not_mem (by decide) ih
  | escaped hEscape _ ih => exact List.not_mem_append hEscape.not_mem ih

theorem writes_self (h : ∀ c ∈ cs, IsLiteral c) : Writes cs cs := by
  induction cs with
  | nil => exact .nil
  | cons c cs ih =>
    exact .literal (h c List.mem_cons_self) (ih fun d hd => h d (List.mem_cons_of_mem c hd))

/-! ## Pieces -/

/-- The piece has the key and a written form of the value, with an equals sign in between. -/
def WritesPair (piece : List Char) (entry : String × String) : Prop :=
  ∃ cs, Writes cs entry.2.toList ∧ piece = entry.1.toList ++ '=' :: cs

/-- A key that is written as it is and that ends where the equals sign stands. -/
def IsPlain (key : String) : Prop :=
  ∀ c ∈ key.toList, IsLiteral c ∧ c ≠ '='

instance (key : String) : Decidable (IsPlain key) :=
  List.decidableBAll (fun c => IsLiteral c ∧ c ≠ '=') key.toList

variable {piece : List Char} {entry : String × String}

theorem WritesPair.pair_eq (h : WritesPair piece entry) (hKey : IsPlain entry.1) :
    pair piece = entry := by
  obtain ⟨cs, hValue, rfl⟩ := h
  have hBefore : ∀ c ∈ entry.1.toList, decide (c ≠ '=') = true := fun c hc =>
    decide_eq_true (hKey c hc).2
  have hWritten := writes_self fun c hc => (hKey c hc).1
  rw [pair, List.takeWhile_append_of_pos hBefore, List.dropWhile_append_of_pos hBefore,
    List.takeWhile_cons_of_neg (by decide), List.dropWhile_cons_of_neg (by decide),
    List.append_nil, hWritten.component_eq, String.ofList_toList]
  exact Prod.ext rfl (hValue.component_eq.trans String.ofList_toList)

theorem WritesPair.not_mem (h : WritesPair piece entry) (hKey : IsPlain entry.1) :
    '&' ∉ piece := by
  obtain ⟨cs, hValue, rfl⟩ := h
  refine List.not_mem_append (fun hMem => (hKey _ hMem).1.1 rfl) ?_
  exact List.not_mem_cons_of_ne_of_not_mem (by decide) hValue.not_mem

theorem WritesPair.ne_nil (h : WritesPair piece entry) : piece ≠ [] := by
  obtain ⟨cs, _, rfl⟩ := h
  simp

/-- Pieces that write pairs are read as these pairs, and nothing else divides them. -/
theorem read_of_writesPair {pieces : List (List Char)} {entries : List (String × String)}
    (h : List.Forall₂ WritesPair pieces entries) (hPlain : ∀ entry ∈ entries, IsPlain entry.1) :
    pieces.map pair = entries ∧ ∀ piece ∈ pieces, '&' ∉ piece ∧ piece ≠ [] := by
  induction h with
  | nil => exact ⟨rfl, nofun⟩
  | cons hFirst _ ih =>
    obtain ⟨hKey, hKeys⟩ := List.forall_mem_cons.mp hPlain
    obtain ⟨hPairs, hPieces⟩ := ih hKeys
    rw [List.map_cons, hFirst.pair_eq hKey, hPairs]
    exact ⟨rfl, List.forall_mem_cons.mpr ⟨⟨hFirst.not_mem hKey, hFirst.ne_nil⟩, hPieces⟩⟩

/-- The pairs of a form are those of the pieces that are not empty. -/
theorem mem_pairs_iff {raw : String} {pieces : List (List Char)} (hPieces : pieces ≠ [])
    (hSeparate : ∀ piece ∈ pieces, '&' ∉ piece)
    (hRaw : raw.toList = ['&'].intercalate pieces) {p : String × String} :
    p ∈ pairs raw ↔ ∃ piece ∈ pieces, piece ≠ [] ∧ pair piece = p := by
  rw [pairs, hRaw, split_eq_splitOn, List.splitOn_intercalate '&' hSeparate hPieces]
  simp [and_assoc]

/-- The ampersand divides before anything is decoded, so neither side can reach into the other. -/
theorem pairs_append (raw more : String) :
    pairs (raw ++ "&" ++ more) = pairs raw ++ pairs more := by
  have hChars : (raw ++ "&" ++ more).toList = raw.toList ++ '&' :: more.toList := by simp
  simp only [pairs, hChars, split_append_cons, List.filter_append, List.map_append]

end Ledger.Form

end AnchorQueue
