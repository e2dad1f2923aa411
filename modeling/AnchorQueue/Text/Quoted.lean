import AnchorQueue.Text.Hex
import AnchorQueue.Text.Printable

/-!
# Quoted text

A text between double quotes with every character visible: quotes, backslashes and the usual
controls have short escapes, whatever else is not printable is written by its code point.
-/

namespace AnchorQueue.Text

def quoteChar (c : Char) : List Char :=
  if c = '"' then ['\\', '"']
  else if c = '\\' then ['\\', '\\']
  else if c = '\n' then ['\\', 'n']
  else if c = '\r' then ['\\', 'r']
  else if c = '\t' then ['\\', 't']
  else if c = '\x00' then ['\\', '0']
  else if printable.has c then [c]
  else ['\\', 'u', '\x7b'] ++ hexDigits c.toNat ++ ['\x7d']

def quoted (s : String) : String :=
  String.ofList ('"' :: s.toList.flatMap quoteChar ++ ['"'])

end AnchorQueue.Text
