import AnchorQueue.Json.Token
import AnchorQueue.Text.Decimal

/-!
# Numbers

A numeral has a whole part, and may have a fraction and an exponent. As a value it must not lie
beyond the doubles, where the value is taken in binary floating point: the leading digits that fit
into 64 bits, rounded to 53 bits, times the rounded power of ten.
-/

namespace AnchorQueue.Json

open AnchorQueue.Text

structure Numeral where
  negative : Bool
  whole : List Char
  fraction : List Char
  /-- Sign and digits; the sign is true for a minus. -/
  exponent : Option (Bool × List Char)
  deriving DecidableEq, Repr

namespace Numeral

/-- A digit is missing at the end of the text, or something else is there. -/
inductive Gap
  | atEnd
  | inside
  deriving DecidableEq, Repr

def gapAt : List Char → Gap
  | [] => .atEnd
  | _ => .inside

def scanDigits (cs : List Char) : Except Gap (List Char × List Char) :=
  let ds := cs.takeWhile Char.isDigit
  if ds = [] then .error (gapAt cs) else .ok (ds, cs.dropWhile Char.isDigit)

/-- A zero in front stands alone. -/
def scanWhole : List Char → Except Gap (List Char × List Char)
  | '0' :: cs =>
    if (cs.head?.map Char.isDigit).getD false then .error .inside else .ok (['0'], cs)
  | cs => scanDigits cs

def scanFraction : List Char → Except Gap (List Char × List Char)
  | '.' :: cs => scanDigits cs
  | cs => .ok ([], cs)

def scanSign : List Char → Bool × List Char
  | '-' :: cs => (true, cs)
  | '+' :: cs => (false, cs)
  | cs => (false, cs)

def scanExponent : List Char → Except Gap (Option (Bool × List Char) × List Char)
  | c :: cs =>
    if c = 'e' || c = 'E' then
      (scanDigits (scanSign cs).2).map fun r => (some ((scanSign cs).1, r.1), r.2)
    else .ok (none, c :: cs)
  | [] => .ok (none, [])

def scanUnsigned (negative : Bool) (cs : List Char) : Except Gap (Numeral × List Char) := do
  let (whole, cs) ← scanWhole cs
  let (fraction, cs) ← scanFraction cs
  let (exponent, cs) ← scanExponent cs
  return ({ negative, whole, fraction, exponent }, cs)

def scan : List Char → Except Gap (Numeral × List Char)
  | '-' :: cs => scanUnsigned true cs
  | cs => scanUnsigned false cs

def digitsValue (ds : List Char) : Nat :=
  ds.foldl (fun n d => n * 10 + digitValue d) 0

/-- The leading digits that fit into 64 bits after `acc`, and the digits left over. -/
def fitting : Nat → List Char → Nat × List Char
  | acc, [] => (acc, [])
  | acc, d :: ds =>
    let next := acc * 10 + digitValue d
    if next < UInt64.size then fitting next ds else (acc, d :: ds)

/-- The nearest number of 53 significant bits; a half goes to the even one. -/
def nearest (n : Nat) : Nat :=
  if n < Nat.pow 2 53 then n
  else
    let unit := Nat.pow 2 (n.log2 - 52)
    let q := n / unit
    let r := n % unit
    (if unit < 2 * r || (unit = 2 * r && q % 2 = 1) then q + 1 else q) * unit

/-- From here on a double has no room, so the nearest one would be infinite. -/
def doubleLimit : Nat :=
  Nat.pow 2 1024 - Nat.pow 2 970

def exceedsDouble (significand : Nat) (exponent : Int) : Bool :=
  if significand = 0 || exponent ≤ 0 then false
  else if 308 < exponent then true
  else doubleLimit ≤ nearest significand * nearest (Nat.pow 10 exponent.toNat)

/-- An exponent beyond 32 bits is not added up. -/
def isOutOfRange (n : Numeral) : Bool :=
  let (high, cut) := fitting 0 n.whole
  let (significand, cut') := fitting high n.fraction
  let shift : Int := (cut.length : Int) - ((n.fraction.length : Int) - cut'.length)
  match n.exponent with
  | none => exceedsDouble significand shift
  | some (minus, ds) =>
    let e := digitsValue ds
    if Nat.pow 2 31 ≤ e then !minus && significand ≠ 0
    else exceedsDouble significand (if minus then shift - e else shift + e)

/-- The number itself when it is written as a natural number below 2 ^ 64. -/
def natural? (n : Numeral) : Option Nat :=
  if n.negative || n.fraction ≠ [] || n.exponent.isSome then none
  else if digitsValue n.whole < UInt64.size then some (digitsValue n.whole)
  else none

def value (n : Numeral) : Except Fault (Option Nat) :=
  if n.isOutOfRange then .error .malformed else .ok n.natural?

def gapFault : Gap → Fault
  | .atEnd => .truncated
  | .inside => .malformed

/-- The token that starts here, and the text after it. -/
def token (cs : List Char) : Token × Except Fault (List Char) :=
  match scan cs with
  | .ok (n, rest) => (.number n.value (.ok ()), .ok rest)
  | .error gap =>
    (.number (.error (gapFault gap)) (.error .malformed), .error .malformed)

theorem length_of_scanDigits {cs ds rest : List Char} (h : scanDigits cs = .ok (ds, rest)) :
    rest.length < cs.length := by
  unfold scanDigits at h
  simp only at h
  split at h
  · simp at h
  · rename_i hne
    simp only [Except.ok.injEq, Prod.mk.injEq] at h
    obtain ⟨h₁, h₂⟩ := h
    have := congrArg List.length (@List.takeWhile_append_dropWhile _ Char.isDigit cs)
    have hp := List.length_pos_iff.mpr hne
    rw [List.length_append] at this
    rw [← h₂]
    omega

theorem length_of_scanWhole {cs ds rest : List Char} (h : scanWhole cs = .ok (ds, rest)) :
    rest.length < cs.length := by
  unfold scanWhole at h
  split at h
  · split at h
    · simp at h
    · simp at h
      rw [← h.2]
      simp
  · exact length_of_scanDigits h

theorem length_of_scanFraction {cs ds rest : List Char} (h : scanFraction cs = .ok (ds, rest)) :
    rest.length ≤ cs.length := by
  unfold scanFraction at h
  split at h
  · have := length_of_scanDigits h
    simp
    omega
  · simp at h
    simp [h.2]

theorem length_scanSign (cs : List Char) : (scanSign cs).2.length ≤ cs.length := by
  unfold scanSign
  split <;> simp

theorem length_of_scanExponent {cs rest : List Char} {e : Option (Bool × List Char)}
    (h : scanExponent cs = .ok (e, rest)) : rest.length ≤ cs.length := by
  unfold scanExponent at h
  split at h
  · rename_i c cs
    split at h
    · have hs := length_scanSign cs
      cases hd : scanDigits (scanSign cs).2 with
      | error _ => simp [hd, Except.map] at h
      | ok r =>
        have := length_of_scanDigits hd
        simp [hd, Except.map] at h
        rw [← h.2]
        simp
        omega
    · simp at h
      simp [← h.2]
  · simp at h
    simp [h.2]

theorem length_of_scanUnsigned {b : Bool} {cs rest : List Char} {n : Numeral}
    (h : scanUnsigned b cs = .ok (n, rest)) : rest.length < cs.length := by
  unfold scanUnsigned at h
  cases hw : scanWhole cs with
  | error _ => simp [hw, bind, Except.bind] at h
  | ok w =>
    have h₁ := length_of_scanWhole hw
    cases hf : scanFraction w.2 with
    | error _ => simp [hw, hf, bind, Except.bind] at h
    | ok f =>
      have h₂ := length_of_scanFraction hf
      cases he : scanExponent f.2 with
      | error _ => simp [hw, hf, he, bind, Except.bind] at h
      | ok e =>
        have h₃ := length_of_scanExponent he
        simp [hw, hf, he, bind, Except.bind, pure, Except.pure] at h
        rw [← h.2]
        omega

theorem length_of_scan {cs rest : List Char} {n : Numeral} (h : scan cs = .ok (n, rest)) :
    rest.length < cs.length := by
  unfold scan at h
  split at h
  · have := length_of_scanUnsigned h
    simp
    omega
  · exact length_of_scanUnsigned h

theorem length_of_token {cs rest : List Char} (h : (token cs).2 = .ok rest) :
    rest.length < cs.length := by
  unfold token at h
  split at h
  · rename_i hs
    simp at h
    subst h
    exact length_of_scan hs
  · simp at h

end Numeral

end AnchorQueue.Json
