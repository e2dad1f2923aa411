import AnchorQueue.Text.CharSet

/-!
# Blank text

White space is the Unicode property White_Space. A text is blank when it has no other
character, that is, when trimming leaves nothing of it.
-/

namespace AnchorQueue.Text

def whiteSpace : CharSet :=
  [(0x09, 0x0D), (0x20, 0x20), (0x85, 0x85), (0xA0, 0xA0), (0x1680, 0x1680), (0x2000, 0x200A),
   (0x2028, 0x2029), (0x202F, 0x202F), (0x205F, 0x205F), (0x3000, 0x3000)]

def isWhite (c : Char) : Bool :=
  whiteSpace.has c

def skipWhite (cs : List Char) : List Char :=
  cs.dropWhile isWhite

def trimChars (cs : List Char) : List Char :=
  (skipWhite (skipWhite cs).reverse).reverse

def trim (s : String) : String :=
  String.ofList (trimChars s.toList)

def isBlank (s : String) : Bool :=
  s.toList.all isWhite

theorem dropWhile_eq_nil_iff {p : Char → Bool} {cs : List Char} :
    cs.dropWhile p = [] ↔ cs.all p = true := by
  induction cs with
  | nil => simp
  | cons c cs ih => by_cases h : p c <;> simp [List.dropWhile, h, ih]

theorem trimChars_eq_nil_iff {cs : List Char} : trimChars cs = [] ↔ cs.all isWhite = true := by
  constructor
  · intro h
    have hr : (skipWhite cs).reverse.all isWhite = true := by
      apply dropWhile_eq_nil_iff.mp
      simpa [trimChars, skipWhite] using h
    cases hs : skipWhite cs with
    | nil => exact dropWhile_eq_nil_iff.mp hs
    | cons c rest =>
      have hc : isWhite c = true := by
        rw [List.all_reverse, hs, List.all_cons, Bool.and_eq_true] at hr
        exact hr.1
      have := List.head?_dropWhile_not isWhite cs
      simp only [skipWhite] at hs
      simp [hs, hc] at this
  · intro h
    simp [trimChars, skipWhite, dropWhile_eq_nil_iff.mpr h]

theorem isBlank_iff_trim_eq_empty (s : String) : isBlank s = true ↔ trim s = "" := by
  rw [isBlank, ← trimChars_eq_nil_iff, trim]
  constructor
  · intro h
    simp [h]
  · intro h
    have := congrArg String.toList h
    simpa using this

end AnchorQueue.Text
