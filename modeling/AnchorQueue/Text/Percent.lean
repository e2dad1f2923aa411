import AnchorQueue.Text.Hex

/-!
# Percent escapes

A percent sign with two hexadecimal digits stands for a byte. Every other character stands for its
bytes in UTF-8, also a percent sign that starts no escape.
-/

namespace AnchorQueue.Text.Percent

/-- The byte that two characters after a percent sign stand for. -/
def escaped? (a b : Char) : Option UInt8 := do
  let high ← hexValue? a
  let low ← hexValue? b
  return (high * 16 + low).toUInt8

def octets : List Char → List UInt8
  | '%' :: a :: b :: rest =>
    match escaped? a b with
    | some byte => byte :: octets rest
    | none => 0x25 :: octets (a :: b :: rest)
  | c :: rest => String.utf8EncodeChar c ++ octets rest
  | [] => []

end AnchorQueue.Text.Percent
