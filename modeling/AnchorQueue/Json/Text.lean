import AnchorQueue.Json.Token
import AnchorQueue.Text.Hex

/-!
# Strings

A string is scanned into pieces: characters, and code units from `\u` escapes. The pieces make a
text when every code unit of a surrogate pair has its other half.
-/

namespace AnchorQueue.Json

open AnchorQueue.Text (hexDigit hexValue?)

inductive Piece
  | scalar (c : Char)
  | unit (n : Nat)
  deriving DecidableEq, Repr

/-- The pieces up to the closing quote and the rest after it, or up to a fault. -/
structure TextScan where
  pieces : List Piece
  rest : Except Fault (List Char)

namespace TextScan

def stop (f : Fault) : TextScan :=
  ⟨[], .error f⟩

def cons (p : Piece) (s : TextScan) : TextScan :=
  ⟨p :: s.pieces, s.rest⟩

def codeUnit? (a b c d : Char) : Option Nat := do
  let a ← hexValue? a
  let b ← hexValue? b
  let c ← hexValue? c
  let d ← hexValue? d
  return ((a * 16 + b) * 16 + c) * 16 + d

def escaped? (c : Char) : Option Char :=
  if c = '"' then some '"'
  else if c = '\\' then some '\\'
  else if c = '/' then some '/'
  else if c = 'b' then some '\x08'
  else if c = 'f' then some '\x0c'
  else if c = 'n' then some '\n'
  else if c = 'r' then some '\r'
  else if c = 't' then some '\t'
  else none

def utf8Size (cs : List Char) : Nat :=
  cs.foldl (fun n c => n + c.utf8Size) 0

/-- Fewer than four bytes after `\u` is an early end, whatever they are. -/
def shortEscape (cs : List Char) : Fault :=
  if utf8Size cs < 4 then .truncated else .malformed

/-- Reads what follows an opening quote. -/
def scan : List Char → TextScan
  | [] => stop .truncated
  | c :: cs =>
    if c = '"' then ⟨[], .ok cs⟩
    else if c = '\\' then
      match cs with
      | [] => stop .truncated
      | e :: ds =>
        if e = 'u' then
          match ds with
          | h :: i :: j :: k :: rest =>
            match codeUnit? h i j k with
            | some n => cons (.unit n) (scan rest)
            | none => stop .malformed
          | short => stop (shortEscape short)
        else
          match escaped? e with
          | some x => cons (.scalar x) (scan ds)
          | none => stop .malformed
    else if c.toNat < 0x20 then stop .malformed
    else cons (.scalar c) (scan cs)

def isHigh (n : Nat) : Bool :=
  0xD800 ≤ n && n < 0xDC00

def isLow (n : Nat) : Bool :=
  0xDC00 ≤ n && n < 0xE000

def ofPair (high low : Nat) : Char :=
  Char.ofNat (0x10000 + (high - 0xD800) * 0x400 + (low - 0xDC00))

/-- A first half at a fault waits for the rest, so the fault is the answer. -/
def chars (ending : Except Fault Unit) : List Piece → Except Fault (List Char)
  | [] => ending.map fun _ => []
  | .scalar c :: ps => (chars ending ps).map (c :: ·)
  | .unit n :: ps =>
    if isLow n then .error .malformed
    else if isHigh n then
      match ps with
      | .unit m :: qs =>
        if isLow m then (chars ending qs).map (ofPair n m :: ·) else .error .malformed
      | .scalar _ :: _ => .error .malformed
      | [] => .error (Token.faultOr .malformed ending)
    else (chars ending ps).map (Char.ofNat n :: ·)

def form (s : TextScan) : Except Fault Unit :=
  s.rest.map fun _ => ()

def value (s : TextScan) : Except Fault String :=
  (chars s.form s.pieces).map String.ofList

def token (s : TextScan) : Token :=
  .text s.value s.form

theorem length_of_scan {cs rest : List Char} (h : (scan cs).rest = .ok rest) :
    rest.length < cs.length := by
  fun_induction scan cs with
  | case1 => simp [stop] at h
  | case2 cs => simp at h; subst h; simp
  | case3 => simp [stop] at h
  | case4 _ i j k rest' a b _ ih =>
    have := ih (by simpa [cons] using h)
    simp
    omega
  | case5 => simp [stop] at h
  | case6 => simp [stop] at h
  | case7 ds _ _ _ x _ ih =>
    have := ih (by simpa [cons] using h)
    simp
    omega
  | case8 => simp [stop] at h
  | case9 => simp [stop] at h
  | case10 cs _ _ _ _ ih =>
    have := ih (by simpa [cons] using h)
    simp
    omega

end TextScan

/-- Quotes, backslashes and controls are escaped, everything else is written as it is. -/
def escapeChar (c : Char) : List Char :=
  if c = '"' then ['\\', '"']
  else if c = '\\' then ['\\', '\\']
  else if c = '\x08' then ['\\', 'b']
  else if c = '\x0c' then ['\\', 'f']
  else if c = '\n' then ['\\', 'n']
  else if c = '\r' then ['\\', 'r']
  else if c = '\t' then ['\\', 't']
  else if c.toNat < 0x20 then
    ['\\', 'u', '0', '0', hexDigit (c.toNat / 16), hexDigit (c.toNat % 16)]
  else [c]

def writeText (s : String) : List Char :=
  '"' :: s.toList.flatMap escapeChar ++ ['"']

end AnchorQueue.Json
