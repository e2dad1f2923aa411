/-!
# Tokens

A text is read token by token. Whether a string or a number is good depends on what it is wanted
for: as a value it must make sense, while something that is passed over only has to have the right
form. So these tokens carry both verdicts, and a fault comes up only when its token is used.
-/

namespace AnchorQueue.Json

/-- Why a text cannot be read: bad form, a value of the wrong kind, or an early end. -/
inductive Fault
  | malformed
  | mismatched
  | truncated
  deriving DecidableEq, Repr

inductive Mark
  | openBrace
  | closeBrace
  | openBracket
  | closeBracket
  | comma
  | colon
  deriving DecidableEq, Repr

namespace Mark

def char : Mark → Char
  | openBrace => '\x7b'
  | closeBrace => '\x7d'
  | openBracket => '['
  | closeBracket => ']'
  | comma => ','
  | colon => ':'

def all : List Mark :=
  [openBrace, closeBrace, openBracket, closeBracket, comma, colon]

def ofChar? (c : Char) : Option Mark :=
  all.find? fun m => m.char = c

theorem ofChar?_char (m : Mark) : ofChar? m.char = some m := by
  cases m <;> rfl

end Mark

/-- `number` has the natural number when that is what it is; `skim` is the verdict on the form. -/
inductive Token
  | mark (m : Mark)
  | null (form : Except Fault Unit)
  | bool (form : Except Fault Unit)
  | text (value : Except Fault String) (skim : Except Fault Unit)
  | number (value : Except Fault (Option Nat)) (skim : Except Fault Unit)
  | junk

namespace Token

def faultOr {α : Type} (f : Fault) : Except Fault α → Fault
  | .error e => e
  | .ok _ => f

/-- The fault of a token where another kind of value is wanted. A faulty value comes first. -/
def mismatch : Token → Fault
  | mark .openBrace => .mismatched
  | mark .openBracket => .mismatched
  | mark _ => .malformed
  | null form => faultOr .mismatched form
  | bool form => faultOr .mismatched form
  | text value _ => faultOr .mismatched value
  | number value _ => faultOr .mismatched value
  | junk => .malformed

/-- The verdict on a scalar that is passed over; other tokens are no scalars. -/
def scalarForm : Token → Option (Except Fault Unit)
  | null form => some form
  | bool form => some form
  | text _ skim => some skim
  | number _ skim => some skim
  | mark _ => none
  | junk => none

end Token

end AnchorQueue.Json
