import AnchorQueue.Text.Hex
import AnchorQueue.Text.Utf8

/-!
# SHA-256

The digest of FIPS 180-4 on bytes, and the content hash of a log: the digest of its UTF-8 bytes in
lower case hexadecimal.
-/

namespace AnchorQueue.Digest

structure Chaining where
  a : UInt32
  b : UInt32
  c : UInt32
  d : UInt32
  e : UInt32
  f : UInt32
  g : UInt32
  h : UInt32
  deriving DecidableEq, Repr

namespace Sha256

def rotate (x : UInt32) (n : UInt32) : UInt32 :=
  (x >>> n) ||| (x <<< (32 - n))

def bigSigma0 (x : UInt32) : UInt32 := rotate x 2 ^^^ rotate x 13 ^^^ rotate x 22

def bigSigma1 (x : UInt32) : UInt32 := rotate x 6 ^^^ rotate x 11 ^^^ rotate x 25

def smallSigma0 (x : UInt32) : UInt32 := rotate x 7 ^^^ rotate x 18 ^^^ (x >>> 3)

def smallSigma1 (x : UInt32) : UInt32 := rotate x 17 ^^^ rotate x 19 ^^^ (x >>> 10)

def choose (x y z : UInt32) : UInt32 := (x &&& y) ^^^ ((~~~ x) &&& z)

def majority (x y z : UInt32) : UInt32 := (x &&& y) ^^^ (x &&& z) ^^^ (y &&& z)

def roundConstants : List UInt32 :=
  [0x428a2f98, 0x71374491, 0xb5c0fbcf, 0xe9b5dba5, 0x3956c25b, 0x59f111f1, 0x923f82a4, 0xab1c5ed5,
   0xd807aa98, 0x12835b01, 0x243185be, 0x550c7dc3, 0x72be5d74, 0x80deb1fe, 0x9bdc06a7, 0xc19bf174,
   0xe49b69c1, 0xefbe4786, 0x0fc19dc6, 0x240ca1cc, 0x2de92c6f, 0x4a7484aa, 0x5cb0a9dc, 0x76f988da,
   0x983e5152, 0xa831c66d, 0xb00327c8, 0xbf597fc7, 0xc6e00bf3, 0xd5a79147, 0x06ca6351, 0x14292967,
   0x27b70a85, 0x2e1b2138, 0x4d2c6dfc, 0x53380d13, 0x650a7354, 0x766a0abb, 0x81c2c92e, 0x92722c85,
   0xa2bfe8a1, 0xa81a664b, 0xc24b8b70, 0xc76c51a3, 0xd192e819, 0xd6990624, 0xf40e3585, 0x106aa070,
   0x19a4c116, 0x1e376c08, 0x2748774c, 0x34b0bcb5, 0x391c0cb3, 0x4ed8aa4a, 0x5b9cca4f, 0x682e6ff3,
   0x748f82ee, 0x78a5636f, 0x84c87814, 0x8cc70208, 0x90befffa, 0xa4506ceb, 0xbef9a3f7, 0xc67178f2]

def initial : Chaining :=
  ⟨0x6a09e667, 0xbb67ae85, 0x3c6ef372, 0xa54ff53a, 0x510e527f, 0x9b05688c, 0x1f83d9ab, 0x5be0cd19⟩

def round (s : Chaining) (k w : UInt32) : Chaining :=
  let t := s.h + bigSigma1 s.e + choose s.e s.f s.g + k + w
  ⟨t + bigSigma0 s.a + majority s.a s.b s.c, s.a, s.b, s.c, s.d + t, s.e, s.f, s.g⟩

/-- The sixteen words of the schedule that follow, moved on by one. -/
def advance (window : List UInt32) : List UInt32 :=
  window.tail ++ [smallSigma1 (window.getD 14 0) + window.getD 9 0 +
    smallSigma0 (window.getD 1 0) + window.getD 0 0]

def rounds : Chaining → List UInt32 → List UInt32 → Chaining
  | s, _, [] => s
  | s, window, k :: ks => rounds (round s k (window.headD 0)) (advance window) ks

def compress (s : Chaining) (block : List UInt32) : Chaining :=
  let t := rounds s block roundConstants
  ⟨s.a + t.a, s.b + t.b, s.c + t.c, s.d + t.d, s.e + t.e, s.f + t.f, s.g + t.g, s.h + t.h⟩

/-- The byte 0x80, zeros, and the bit length in eight bytes; together whole blocks of 64. -/
def padding (length : Nat) : List UInt8 :=
  [0x80] ++ List.replicate ((119 - length % 64) % 64) 0 ++
    [56, 48, 40, 32, 24, 16, 8, 0].map fun s : Nat => (8 * length / Nat.pow 2 s).toUInt8

def words : List UInt8 → List UInt32
  | a :: b :: c :: d :: rest =>
    ((a.toUInt32 <<< 24) ||| (b.toUInt32 <<< 16) ||| (c.toUInt32 <<< 8) ||| d.toUInt32) ::
      words rest
  | _ => []

def absorb (s : Chaining) (ws : List UInt32) : Chaining :=
  if ws = [] then s
  else absorb (compress s (ws.take 16)) (ws.drop 16)
termination_by ws.length
decreasing_by
  rename_i h
  have := List.length_pos_iff.mpr h
  simp [List.length_drop]
  omega

def Chaining.toList (s : Chaining) : List UInt32 :=
  [s.a, s.b, s.c, s.d, s.e, s.f, s.g, s.h]

def digest (bytes : List UInt8) : List UInt32 :=
  Chaining.toList (absorb initial (words (bytes ++ padding bytes.length)))

def hexWord (w : UInt32) : List Char :=
  [28, 24, 20, 16, 12, 8, 4, 0].map fun s : Nat => Text.hexDigit (w.toNat / Nat.pow 2 s % 16)

end Sha256

def contentHash (content : String) : String :=
  String.ofList ((Sha256.digest (Text.Utf8.encode content.toList)).flatMap Sha256.hexWord)

end AnchorQueue.Digest
