import AnchorQueue.Text.Decimal

/-!
# Text from UTF-8 bytes

Bytes are decoded one at a time. A byte that cannot continue the character under way ends it: the
part read so far counts as one replacement character, and the byte is looked at afresh. So each
maximal beginning of a character that stays incomplete gives exactly one replacement character.
-/

namespace AnchorQueue.Text.Utf8

/-- A character under way: bytes still missing, the bits read, and the bounds of the next byte. -/
structure Pending where
  missing : Nat
  bits : Nat
  least : Nat
  greatest : Nat
  deriving DecidableEq, Repr

def replacement : Char := '\uFFFD'

/-- The first byte of a character. The bounds of the second byte keep out overlong forms,
surrogates and values beyond the last code point. -/
def enter (b : UInt8) : List Char × Option Pending :=
  let n := b.toNat
  if n < 0x80 then ([Char.ofNat n], none)
  else if n < 0xC2 then ([replacement], none)
  else if n < 0xE0 then ([], some ⟨1, n - 0xC0, 0x80, 0xBF⟩)
  else if n < 0xF0 then
    ([], some ⟨2, n - 0xE0, if n = 0xE0 then 0xA0 else 0x80, if n = 0xED then 0x9F else 0xBF⟩)
  else if n < 0xF5 then
    ([], some ⟨3, n - 0xF0, if n = 0xF0 then 0x90 else 0x80, if n = 0xF4 then 0x8F else 0xBF⟩)
  else ([replacement], none)

def step : Option Pending → UInt8 → List Char × Option Pending
  | none, b => enter b
  | some p, b =>
    if p.least ≤ b.toNat ∧ b.toNat ≤ p.greatest then
      let bits := p.bits * 64 + (b.toNat - 0x80)
      if p.missing ≤ 1 then ([Char.ofNat bits], none)
      else ([], some ⟨p.missing - 1, bits, 0x80, 0xBF⟩)
    else
      let (cs, next) := enter b
      (replacement :: cs, next)

def decodeFrom : Option Pending → List UInt8 → List Char
  | none, [] => []
  | some _, [] => [replacement]
  | s, b :: bs => (step s b).1 ++ decodeFrom (step s b).2 bs

def decode (bs : List UInt8) : List Char :=
  decodeFrom none bs

/-- The first character that does not come out: the byte it starts at, and how many bytes of it were
read before a wrong one; no such number where the bytes end too soon. -/
structure Fault where
  index : Nat
  length : Option Nat
  deriving DecidableEq, Repr

def Fault.message (f : Fault) : String :=
  match f.length with
  | some n =>
    "invalid utf-8 sequence of " ++ decimal n ++ " bytes from index " ++ decimal f.index
  | none => "incomplete utf-8 byte sequence from index " ++ decimal f.index

/-- `seen` bytes of the character that starts at byte `start` have been read. -/
def faultFrom (start seen : Nat) : Option Pending → List UInt8 → Option Fault
  | none, [] => none
  | some _, [] => some ⟨start, none⟩
  | none, b :: bs =>
    match enter b with
    | (_, some p) => faultFrom start 1 (some p) bs
    | (cs, none) =>
      if cs = [replacement] then some ⟨start, some 1⟩ else faultFrom (start + 1) 0 none bs
  | some p, b :: bs =>
    if p.least ≤ b.toNat ∧ b.toNat ≤ p.greatest then
      match (step (some p) b).2 with
      | some q => faultFrom start (seen + 1) (some q) bs
      | none => faultFrom (start + seen + 1) 0 none bs
    else some ⟨start, some seen⟩

def fault? (bs : List UInt8) : Option Fault :=
  faultFrom 0 0 none bs

def encode (cs : List Char) : List UInt8 :=
  cs.flatMap String.utf8EncodeChar

end AnchorQueue.Text.Utf8
