/-!
# Decimal numerals

Numbers are written without leading zeros, or filled with zeros up to a fixed width. Reading goes
from left to right and stops at the first fault: a character that is no digit, or a value that
leaves the bound.
-/

namespace AnchorQueue.Text

def digit (n : Nat) : Char :=
  Char.ofNat (48 + n % 10)

def digitValue (c : Char) : Nat :=
  c.toNat - 48

def digits (n : Nat) : List Char :=
  if n < 10 then [digit n] else digits (n / 10) ++ [digit n]
termination_by n
decreasing_by omega

/-- At least `width` digits, with zeros in front. -/
def paddedDigits (width n : Nat) : List Char :=
  List.replicate (width - (digits n).length) '0' ++ digits n

def decimal (n : Nat) : String :=
  String.ofList (digits n)

inductive NumeralFault
  | empty
  | invalidDigit
  | tooLarge
  | tooSmall
  deriving DecidableEq, Repr

def NumeralFault.message : NumeralFault → String
  | .empty => "cannot parse integer from empty string"
  | .invalidDigit => "invalid digit found in string"
  | .tooLarge => "number too large to fit in target type"
  | .tooSmall => "number too small to fit in target type"

/-- Reads digits onto `acc`; a value of `bound` or more is the fault `excess`. -/
def readDigits (bound : Nat) (excess : NumeralFault) : Nat → List Char → Except NumeralFault Nat
  | acc, [] => .ok acc
  | acc, c :: cs =>
    if c.isDigit then
      let next := acc * 10 + digitValue c
      if next < bound then readDigits bound excess next cs else .error excess
    else .error .invalidDigit

/-- At least one digit. -/
def readNumeral (bound : Nat) (excess : NumeralFault) : List Char → Except NumeralFault Nat
  | [] => .error .invalidDigit
  | c :: cs => readDigits bound excess 0 (c :: cs)

/-- A number below `bound`, with or without a plus sign. -/
def readNatural (bound : Nat) : List Char → Except NumeralFault Nat
  | [] => .error .empty
  | '+' :: cs => readNumeral bound .tooLarge cs
  | c :: cs => readNumeral bound .tooLarge (c :: cs)

/-- A number from `-bound` to `bound - 1`, with or without a sign. -/
def readInteger (bound : Nat) : List Char → Except NumeralFault Int
  | '-' :: cs => (readNumeral (bound + 1) .tooSmall cs).map fun n => -(n : Int)
  | cs => (readNatural bound cs).map fun n => (n : Int)

end AnchorQueue.Text
