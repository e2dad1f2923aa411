/-!
# Schemes of URLs

Some schemes are special: a backslash is a slash, and a host is there and is a domain. Files are a
kind of their own.
-/

namespace AnchorQueue.Url

inductive SchemeKind
  | file
  | special
  | other
  deriving DecidableEq, Repr

namespace SchemeKind

def ofName (name : String) : SchemeKind :=
  if name = "file" then .file
  else if ["http", "https", "ws", "wss", "ftp"].contains name then .special
  else .other

def isSlash (kind : SchemeKind) (c : Char) : Bool :=
  c = '/' || c = '\\' && kind ≠ .other

end SchemeKind

def isSchemeChar (c : Char) : Bool :=
  c.isAlphanum || c = '+' || c = '-' || c = '.'

/-- The scheme before the first colon, and the text after it. -/
def splitScheme? (cs : List Char) : Option (SchemeKind × List Char) :=
  let scheme := cs.takeWhile isSchemeChar
  match scheme, cs.drop scheme.length with
  | c :: name, ':' :: rest =>
    if c.isAlpha then
      some (SchemeKind.ofName (String.ofList ((c :: name).map Char.toLower)), rest)
    else none
  | _, _ => none

end AnchorQueue.Url
