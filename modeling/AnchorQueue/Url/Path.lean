import AnchorQueue.Text.Split
import AnchorQueue.Url.Scheme

/-!
# Paths of URLs

A dot segment stands for the folder it is in, a double dot for the folder above. Either goes away
with what it undoes, and leaves an empty segment where it was the last one.
-/

namespace AnchorQueue.Url

namespace Segment

def isDot (s : List Char) : Bool :=
  [".", "%2e"].contains (String.ofList (s.map Char.toLower))

def isDoubleDot (s : List Char) : Bool :=
  ["..", ".%2e", "%2e.", "%2e%2e"].contains (String.ofList (s.map Char.toLower))

/-- A letter with a colon or a bar after it. -/
def isDrive : List Char → Bool
  | [letter, mark] => letter.isAlpha && (mark = ':' || mark = '|')
  | _ => false

/-- The segments less the last one, which stands first here; a drive stays. -/
def goUp : List (List Char) → List (List Char)
  | [] => []
  | s :: kept => if isDrive s then s :: kept else kept

/-- The segments kept so far stand in reverse. -/
def resolve : List (List Char) → List (List Char) → List (List Char)
  | kept, [] => kept.reverse
  | kept, s :: rest =>
    let left := if isDoubleDot s then goUp kept else kept
    if !isDot s && !isDoubleDot s then resolve (s :: kept) rest
    else if rest.isEmpty then ([] :: left).reverse
    else resolve left rest

end Segment

/-- A path without its dot segments. Where the scheme is not special, the path may be empty. -/
def resolvePath (kind : SchemeKind) (cs : List Char) : List Char :=
  let slashed := cs.map fun c => if kind.isSlash c then '/' else c
  match kind, slashed with
  | .other, [] => []
  | _, '/' :: rest => '/' :: joined rest
  | _, rest => '/' :: joined rest
where
  joined (cs : List Char) : List Char :=
    List.intercalate ['/'] (Segment.resolve [] (Text.split '/' cs))

end AnchorQueue.Url
