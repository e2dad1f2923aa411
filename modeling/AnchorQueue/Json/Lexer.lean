import AnchorQueue.Json.Number
import AnchorQueue.Json.Text

/-!
# From text to tokens and back

Reading a text gives its tokens up to the first one that is bad in every use. A lexeme is a good
token as it is written; a text of lexemes has no white space.
-/

namespace AnchorQueue.Json

def isSpace (c : Char) : Bool :=
  c = ' ' || c = '\t' || c = '\n' || c = '\r'

/-- The rest of a word that has to go on like this. -/
def scanWord : List Char → List Char → Except Fault (List Char)
  | [], cs => .ok cs
  | _ :: _, [] => .error .truncated
  | w :: ws, c :: cs => if c = w then scanWord ws cs else .error .malformed

theorem length_of_scanWord {ws cs rest : List Char} (h : scanWord ws cs = .ok rest) :
    rest.length ≤ cs.length := by
  induction ws generalizing cs with
  | nil => simp [scanWord] at h; simp [h]
  | cons w ws ih =>
    cases cs with
    | nil => simp [scanWord] at h
    | cons c cs =>
      simp only [scanWord] at h
      split at h
      · have := ih h
        simp
        omega
      · simp at h

def formOf {α : Type} (e : Except Fault α) : Except Fault Unit :=
  e.map fun _ => ()

/-- The token that starts with a character, and the text after it. -/
def tokenAt (c : Char) (cs : List Char) : Token × Except Fault (List Char) :=
  match Mark.ofChar? c with
  | some m => (.mark m, .ok cs)
  | none =>
    if c = '"' then ((TextScan.scan cs).token, (TextScan.scan cs).rest)
    else if c = '-' || c.isDigit then Numeral.token (c :: cs)
    else if c = 'n' then
      (.null (formOf (scanWord ['u', 'l', 'l'] cs)), scanWord ['u', 'l', 'l'] cs)
    else if c = 't' then
      (.bool (formOf (scanWord ['r', 'u', 'e'] cs)), scanWord ['r', 'u', 'e'] cs)
    else if c = 'f' then
      (.bool (formOf (scanWord ['a', 'l', 's', 'e'] cs)), scanWord ['a', 'l', 's', 'e'] cs)
    else (.junk, .error .malformed)

theorem length_of_tokenAt {c : Char} {cs rest : List Char} (h : (tokenAt c cs).2 = .ok rest) :
    rest.length < (c :: cs).length := by
  unfold tokenAt at h
  rw [List.length_cons]
  split at h
  · simp at h
    simp [h]
  · split at h
    · have := TextScan.length_of_scan h
      omega
    · split at h
      · simpa using Numeral.length_of_token h
      · repeat' split at h
        all_goals first
          | exact Nat.lt_succ_of_le (length_of_scanWord h)
          | simp at h

def lex : List Char → List Token
  | [] => []
  | c :: cs =>
    if isSpace c then lex cs
    else
      (tokenAt c cs).1 ::
        match _h : (tokenAt c cs).2 with
        | .ok rest => lex rest
        | .error _ => []
termination_by cs => cs.length
decreasing_by
  · simp
  · exact length_of_tokenAt _h

inductive Lexeme
  | mark (m : Mark)
  | null
  | text (s : String)
  | number (n : Nat)
  deriving DecidableEq, Repr

namespace Lexeme

def token : Lexeme → Token
  | mark m => .mark m
  | null => .null (.ok ())
  | text s => .text (.ok s) (.ok ())
  | number n => .number (.ok (some n)) (.ok ())

def write : Lexeme → List Char
  | mark m => [m.char]
  | null => ['n', 'u', 'l', 'l']
  | text s => writeText s
  | number n => AnchorQueue.Text.digits n

end Lexeme

def writeLexemes (ls : List Lexeme) : List Char :=
  ls.flatMap Lexeme.write

end AnchorQueue.Json
