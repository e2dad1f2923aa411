import AnchorQueue.Ledger.Payload
import AnchorQueue.Proofs.Ledger.FormEncoding
import Mathlib.Data.List.Nodup

/-!
# Forms of a payload

A payload may stand in a form in many ways: its fields in any order and in any of their written
forms, among pairs with other keys and empty pieces. It is read from each of them.
-/

namespace AnchorQueue.Ledger.Payload

def fields (p : Payload) : List (String × String) :=
  [("org_id", p.orgId), ("ts", p.timestamp), ("content", p.content)]

/-- The pieces of the form are one for each field, and others, of which none has the key of a
field. They stand in any order. -/
def WrittenAs (p : Payload) (raw : String) : Prop :=
  ∃ own others pieces : List (List Char), List.Forall₂ Form.WritesPair own p.fields ∧
    (∀ piece ∈ others, '&' ∉ piece ∧ (Form.pair piece).1 ∉ p.fields.map Prod.fst) ∧
    pieces.Perm (own ++ others) ∧ raw.toList = ['&'].intercalate pieces

variable {p : Payload} {raw : String} {entry : String × String}

theorem isPlain_of_mem_fields (h : entry ∈ p.fields) : Form.IsPlain entry.1 := by
  have hPlain : ∀ key ∈ ["org_id", "ts", "content"], Form.IsPlain key := by decide
  exact hPlain entry.1 (List.mem_map_of_mem h)

theorem nodup_keys_fields (p : Payload) : (p.fields.map Prod.fst).Nodup := by
  change ["org_id", "ts", "content"].Nodup
  decide

/-- Under the keys of the fields, the form has the fields and nothing else. -/
theorem WrittenAs.mem_pairs_iff (h : p.WrittenAs raw) (hKey : entry.1 ∈ p.fields.map Prod.fst) :
    entry ∈ Form.pairs raw ↔ entry ∈ p.fields := by
  obtain ⟨own, others, pieces, hOwn, hOthers, hPieces, hRaw⟩ := h
  obtain ⟨hFields, hOwnPieces⟩ := Form.read_of_writesPair hOwn fun _ => isPlain_of_mem_fields
  have hMem : ∀ piece, piece ∈ pieces ↔ piece ∈ own ∨ piece ∈ others := by
    intro piece
    rw [hPieces.mem_iff, List.mem_append]
  have hSeparate : ∀ piece ∈ pieces, '&' ∉ piece := by
    intro piece hPiece
    rcases (hMem piece).mp hPiece with hPiece | hPiece
    · exact (hOwnPieces piece hPiece).1
    · exact (hOthers piece hPiece).1
  have hSome : pieces ≠ [] := by
    rintro rfl
    rw [List.append_eq_nil_iff.mp hPieces.nil_eq.symm |>.1] at hFields
    cases hFields
  rw [Form.mem_pairs_iff hSome hSeparate hRaw, ← hFields, List.mem_map]
  constructor
  · rintro ⟨piece, hPiece, _, rfl⟩
    rcases (hMem piece).mp hPiece with hPiece | hPiece
    · exact ⟨piece, hPiece, rfl⟩
    · exact absurd hKey (hOthers piece hPiece).2
  · rintro ⟨piece, hPiece, hPair⟩
    exact ⟨piece, (hMem piece).mpr (Or.inl hPiece), (hOwnPieces piece hPiece).2, hPair⟩

/-- A value is found under its key when no other value stands there. -/
theorem field_eq_ok {pairs : List (String × String)} (hMem : entry ∈ pairs)
    (hOnly : ∀ q ∈ pairs, q.1 = entry.1 → q = entry) (hValue : entry.2 ≠ "") :
    field pairs entry.1 = .ok entry.2 := by
  rw [field]
  cases hFind : pairs.find? fun q => q.1 = entry.1 with
  | none => exact absurd (decide_eq_true rfl) (List.find?_eq_none.mp hFind entry hMem)
  | some q =>
    have hKey : q.1 = entry.1 := by simpa using List.find?_some hFind
    obtain rfl := hOnly q (List.mem_of_find?_eq_some hFind) hKey
    exact if_neg hValue

theorem WrittenAs.field_eq (h : p.WrittenAs raw) (hEntry : entry ∈ p.fields)
    (hValue : entry.2 ≠ "") : field (Form.pairs raw) entry.1 = .ok entry.2 := by
  have hKey : entry.1 ∈ p.fields.map Prod.fst := List.mem_map_of_mem hEntry
  refine field_eq_ok ((h.mem_pairs_iff hKey).mpr hEntry) (fun q hq hSame => ?_) hValue
  have hField : q ∈ p.fields := (h.mem_pairs_iff (hSame ▸ hKey)).mp hq
  exact List.inj_on_of_nodup_map p.nodup_keys_fields hField hEntry hSame

/-- A payload without empty fields is read from every form in which it is written. -/
theorem decode_of_writtenAs (hValues : ∀ entry ∈ p.fields, entry.2 ≠ "") (h : p.WrittenAs raw) :
    decode raw = .ok p := by
  obtain ⟨hOrgId, hTimestamp, hContent⟩ : p.orgId ≠ "" ∧ p.timestamp ≠ "" ∧ p.content ≠ "" := by
    simpa [fields] using hValues
  have hOrg := h.field_eq (show ("org_id", p.orgId) ∈ p.fields by simp [fields]) hOrgId
  have hTs := h.field_eq (show ("ts", p.timestamp) ∈ p.fields by simp [fields]) hTimestamp
  have hText := h.field_eq (show ("content", p.content) ∈ p.fields by simp [fields]) hContent
  rw [decode, ofPairs, hOrg, hTs, hText]
  rfl

/-- A form whose fields are in another order, with a value that has all separators in it, and with
a key that resembles one of the three. -/
def mixedForm : String :=
  "x=1&content=a=b%26%E2%82%ac+%2b&&ts=%31700&org_id=\u00E4&%6Frg=z"

theorem writtenAs_mixedForm : WrittenAs ⟨"\u00E4", "1700", "a=b&\u20AC +"⟩ mixedForm := by
  have hAmpersand : Form.Escapes "%26".toList (String.utf8EncodeChar '&') :=
    .cons (b := 0x26) (by decide) (by decide) .nil
  have hEuro : Form.Escapes "%E2%82%ac".toList (String.utf8EncodeChar '\u20AC') :=
    .cons (b := 0xE2) (by decide) (by decide) <| .cons (b := 0x82) (by decide) (by decide) <|
      .cons (b := 0xAC) (by decide) (by decide) .nil
  have hPlus : Form.Escapes "%2b".toList (String.utf8EncodeChar '+') :=
    .cons (b := 0x2B) (by decide) (by decide) .nil
  have hOne : Form.Escapes "%31".toList (String.utf8EncodeChar '1') :=
    .cons (b := 0x31) (by decide) (by decide) .nil
  refine ⟨["org_id=\u00E4".toList, "ts=%31700".toList, "content=a=b%26%E2%82%ac+%2b".toList],
    ["x=1".toList, [], "%6Frg=z".toList],
    ["x=1".toList, "content=a=b%26%E2%82%ac+%2b".toList, [], "ts=%31700".toList,
      "org_id=\u00E4".toList, "%6Frg=z".toList], ?_, by decide, by decide, by decide⟩
  have hDigits : Form.Writes "700".toList "700".toList :=
    .literal (by decide) <| .literal (by decide) <| .literal (by decide) .nil
  refine .cons ⟨['\u00E4'], .literal (by decide) .nil, rfl⟩ <|
    .cons ⟨"%31700".toList, .escaped hOne hDigits, rfl⟩ <|
    .cons ⟨"a=b%26%E2%82%ac+%2b".toList, ?_, rfl⟩ .nil
  exact .literal (by decide) <| .literal (by decide) <| .literal (by decide) <|
    .escaped hAmpersand <| .escaped hEuro <| .plus <| .escaped hPlus .nil

theorem decode_mixedForm :
    (∀ entry ∈ fields ⟨"\u00E4", "1700", "a=b&\u20AC +"⟩, entry.2 ≠ "") ∧
      WrittenAs ⟨"\u00E4", "1700", "a=b&\u20AC +"⟩ mixedForm ∧
      decode mixedForm = .ok ⟨"\u00E4", "1700", "a=b&\u20AC +"⟩ := by
  have hValues : ∀ entry ∈ fields ⟨"\u00E4", "1700", "a=b&\u20AC +"⟩, entry.2 ≠ "" := by decide
  exact ⟨hValues, writtenAs_mixedForm, decode_of_writtenAs hValues writtenAs_mixedForm⟩

end AnchorQueue.Ledger.Payload
