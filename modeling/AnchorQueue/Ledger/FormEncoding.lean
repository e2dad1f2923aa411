import AnchorQueue.Text.Percent
import AnchorQueue.Text.Split
import AnchorQueue.Text.Utf8

/-!
# Form encoding

A form is a list of pairs written as `key=value` with `&` in between. In a key or a value a plus
sign stands for a space and `%` with two hexadecimal digits for a byte; the bytes are UTF-8.
Splitting comes first, so an escaped separator does not separate.
-/

namespace AnchorQueue.Ledger.Form

open AnchorQueue.Text

def spaceForPlus (c : Char) : Char :=
  if c = '+' then ' ' else c

/-- The bytes of a key or value. -/
def octets (cs : List Char) : List UInt8 :=
  Percent.octets (cs.map spaceForPlus)

def component (cs : List Char) : String :=
  String.ofList (Utf8.decode (octets cs))

/-- A piece without an equals sign is a key with an empty value. -/
def pair (piece : List Char) : String × String :=
  (component (piece.takeWhile (· ≠ '=')), component ((piece.dropWhile (· ≠ '=')).drop 1))

/-- The pairs of a form; empty pieces are passed over. -/
def pairs (raw : String) : List (String × String) :=
  ((split '&' raw.toList).filter fun piece => !piece.isEmpty).map pair

end AnchorQueue.Ledger.Form
