import AnchorQueue.Text.Decimal

/-!
# Lengths of time

A length of time is shown in the largest of the units s, ms, µs and ns in which it is at least
one, with the rest as a decimal fraction that ends in no zero.
-/

namespace AnchorQueue.Time

structure Duration where
  nanos : Nat
  deriving DecidableEq, Repr

namespace Duration

def ofSeconds (s : Nat) : Duration := ⟨s * 1000000000⟩

/-- Whole milliseconds. -/
def millis (d : Duration) : Nat := d.nanos / 1000000

def seconds (d : Duration) : Nat := d.nanos / 1000000000

def dropTrailingZeros (cs : List Char) : List Char :=
  (cs.reverse.dropWhile (· = '0')).reverse

/-- `nanos` in a unit of `10 ^ places` nanoseconds. -/
def inUnit (nanos places : Nat) (unit : String) : String :=
  let fraction := dropTrailingZeros (Text.paddedDigits places (nanos % Nat.pow 10 places))
  let whole := Text.decimal (nanos / Nat.pow 10 places)
  if nanos % Nat.pow 10 places = 0 then whole ++ unit
  else whole ++ "." ++ String.ofList fraction ++ unit

def describe (d : Duration) : String :=
  if Nat.pow 10 9 ≤ d.nanos then inUnit d.nanos 9 "s"
  else if Nat.pow 10 6 ≤ d.nanos then inUnit d.nanos 6 "ms"
  else if Nat.pow 10 3 ≤ d.nanos then inUnit d.nanos 3 "µs"
  else inUnit d.nanos 0 "ns"

end Duration

end AnchorQueue.Time
