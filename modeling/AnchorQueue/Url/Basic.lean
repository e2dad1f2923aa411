import AnchorQueue.Url.Authority
import AnchorQueue.Url.Path

/-!
# URLs

A URL is read as the scheme asks: with an authority and a path, with a path alone, or as plain text.
A query follows, and a fragment, which is not kept.
-/

namespace AnchorQueue

structure Url where
  authority : Url.Authority
  path : List Char
  query : List Char
  deriving DecidableEq, Repr

namespace Url

/-- Controls and blanks around a URL, and tabs and line breaks in it, do not count. -/
def significant (text : String) : List Char :=
  let isEdge := fun c : Char => c.toNat ≤ 0x20
  let cs := text.toList.dropWhile isEdge
  (cs.reverse.dropWhile isEdge).reverse.filter fun c => c ≠ '\t' && c ≠ '\n' && c ≠ '\r'

/-- The path and the query, which a question mark divides and a hash ends. -/
def ofTail (a : Authority) (onPath : List Char → List Char) (cs : List Char) : Url :=
  let body := cs.takeWhile (· ≠ '#')
  ⟨a, onPath (body.takeWhile (· ≠ '?')), (body.dropWhile (· ≠ '?')).drop 1⟩

def withAuthority (kind : SchemeKind) (cs : List Char) : Except Fault Url := do
  let (a, rest) ← Authority.read kind cs
  return ofTail a (resolvePath kind) rest

/-- The host of a file stands before its path. A drive is no host. -/
def ofFileHost (cs : List Char) : Except Fault Url := do
  let host := cs.takeWhile fun c => !SchemeKind.file.isSlash c && c ≠ '?' && c ≠ '#'
  if host.isEmpty || Segment.isDrive host then
    return ofTail .absent (resolvePath .file) cs
  checkDomain host
  return ofTail ⟨[], [], host⟩ (resolvePath .file) (cs.drop host.length)

def ofFile : List Char → Except Fault Url
  | a :: b :: cs =>
    if SchemeKind.file.isSlash a && SchemeKind.file.isSlash b then ofFileHost cs
    else .ok (ofTail .absent (resolvePath .file) (a :: b :: cs))
  | cs => .ok (ofTail .absent (resolvePath .file) cs)

def ofOther : List Char → Except Fault Url
  | '/' :: '/' :: cs => withAuthority .other cs
  | '/' :: cs => .ok (ofTail .absent (resolvePath .other) ('/' :: cs))
  | cs => .ok (ofTail .absent id cs)

def parse (text : String) : Except Fault Url :=
  match splitScheme? (significant text) with
  | none => .error .relative
  | some (.file, cs) => ofFile cs
  | some (.special, cs) => withAuthority .special (cs.dropWhile SchemeKind.special.isSlash)
  | some (.other, cs) => ofOther cs

end Url

end AnchorQueue
