import AnchorQueue.Text.Utf8

/-!
# Text and its UTF-8 bytes

The bytes of a text are decoded to the very text, whatever follows. A character is followed from its
first byte, which fixes the bounds of the second, to its last, at which its bits are complete.
-/

namespace AnchorQueue.Text.Utf8

variable {n missing bits least greatest : Nat}

theorem toNat_ofNat (h : n < 256) : (UInt8.ofNat n).toNat = n :=
  UInt8.toNat_ofNat_of_lt' h

/-! ## First bytes -/

theorem enter_two (hLeast : 0xC2 ≤ n) (hLt : n < 0xE0) :
    enter (UInt8.ofNat n) = ([], some ⟨1, n - 0xC0, 0x80, 0xBF⟩) := by
  rw [enter, toNat_ofNat (by omega), if_neg (by omega), if_neg (by omega), if_pos hLt]

theorem enter_three (hLeast : 0xE0 ≤ n) (hLt : n < 0xF0) :
    enter (UInt8.ofNat n) = ([], some ⟨2, n - 0xE0, if n = 0xE0 then 0xA0 else 0x80,
      if n = 0xED then 0x9F else 0xBF⟩) := by
  rw [enter, toNat_ofNat (by omega), if_neg (by omega), if_neg (by omega), if_neg (by omega),
    if_pos hLt]

theorem enter_four (hLeast : 0xF0 ≤ n) (hLt : n < 0xF5) :
    enter (UInt8.ofNat n) = ([], some ⟨3, n - 0xF0, if n = 0xF0 then 0x90 else 0x80,
      if n = 0xF4 then 0x8F else 0xBF⟩) := by
  rw [enter, toNat_ofNat (by omega), if_neg (by omega), if_neg (by omega), if_neg (by omega),
    if_neg (by omega), if_pos hLt]

theorem decodeFrom_enter {p : Pending} (h : enter (UInt8.ofNat n) = ([], some p))
    (bs : List UInt8) : decodeFrom none (UInt8.ofNat n :: bs) = decodeFrom (some p) bs := by
  rw [decodeFrom, step, h]
  rfl

theorem decodeFrom_one (h : n < 0x80) (bs : List UInt8) :
    decodeFrom none (UInt8.ofNat n :: bs) = Char.ofNat n :: decodeFrom none bs := by
  rw [decodeFrom, step, enter, toNat_ofNat (by omega), if_pos h]
  rfl

/-! ## Bytes that go on -/

theorem decodeFrom_more (hMissing : 1 < missing) (hLeast : least ≤ n) (hGreatest : n ≤ greatest)
    (hByte : n < 256) (bs : List UInt8) :
    decodeFrom (some ⟨missing, bits, least, greatest⟩) (UInt8.ofNat n :: bs) =
      decodeFrom (some ⟨missing - 1, bits * 64 + (n - 0x80), 0x80, 0xBF⟩) bs := by
  rw [decodeFrom, step, toNat_ofNat hByte, if_pos ⟨hLeast, hGreatest⟩,
    if_neg (Nat.not_le.mpr hMissing)]
  rfl

theorem decodeFrom_last (hLeast : least ≤ n) (hGreatest : n ≤ greatest) (hByte : n < 256)
    (bs : List UInt8) :
    decodeFrom (some ⟨1, bits, least, greatest⟩) (UInt8.ofNat n :: bs) =
      Char.ofNat (bits * 64 + (n - 0x80)) :: decodeFrom none bs := by
  rw [decodeFrom, step, toNat_ofNat hByte, if_pos ⟨hLeast, hGreatest⟩, if_pos (Nat.le_refl 1)]
  rfl

/-! ## Characters -/

/-- The bytes of one character give this character, and nothing of it is left over. -/
theorem decodeFrom_utf8EncodeChar (c : Char) (bs : List UInt8) :
    decodeFrom none (String.utf8EncodeChar c ++ bs) = c :: decodeFrom none bs := by
  have hValid : c.val.toNat < 0xD800 ∨ 0xDFFF < c.val.toNat ∧ c.val.toNat < 0x110000 := c.valid
  have hChar : ∀ n, n = c.val.toNat → Char.ofNat n = c := fun n hn => hn ▸ c.ofNat_toNat
  simp only [String.utf8EncodeChar]
  generalize c.val.toNat = v at hValid hChar ⊢
  split
  · rw [List.singleton_append, decodeFrom_one (by omega), hChar v rfl]
  · split
    · rw [List.cons_append, List.singleton_append,
        decodeFrom_enter (enter_two (by omega) (by omega)),
        decodeFrom_last (by omega) (by omega) (by omega), hChar _ (by omega)]
    · -- The bounds of the second byte depend on the first: they leave out short forms and, for
      -- three bytes, the surrogates, which are no characters.
      split
      · rw [List.cons_append, List.cons_append, List.singleton_append,
          decodeFrom_enter (enter_three (by omega) (by omega)),
          decodeFrom_more (by decide) (by split <;> omega) (by split <;> omega) (by omega),
          decodeFrom_last (by omega) (by omega) (by omega), hChar _ (by omega)]
      · rw [List.cons_append, List.cons_append, List.cons_append, List.singleton_append,
          decodeFrom_enter (enter_four (by omega) (by omega)),
          decodeFrom_more (by decide) (by split <;> omega) (by split <;> omega) (by omega),
          decodeFrom_more (by decide) (by omega) (by omega) (by omega),
          decodeFrom_last (by omega) (by omega) (by omega), hChar _ (by omega)]

theorem decode_encode (cs : List Char) : decode (encode cs) = cs := by
  rw [decode, encode]
  induction cs with
  | nil => rfl
  | cons c cs ih => rw [List.flatMap_cons, decodeFrom_utf8EncodeChar, ih]

end AnchorQueue.Text.Utf8
