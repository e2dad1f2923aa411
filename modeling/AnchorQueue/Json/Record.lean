import AnchorQueue.Json.Codec
import AnchorQueue.Json.Skip

/-!
# Records and lists

A record has named slots in a fixed order. It is written as an object, and read from an object in
any order or from a list with exactly the slots in order. A row is the values of all slots; a draft
is the values found so far.
-/

namespace AnchorQueue.Json

/-- `missing` is the value of a slot without an entry; `isOmitted` values are not written. -/
structure Slot where
  Value : Type
  name : String
  codec : Codec Value
  missing : Option Value
  isOmitted : Value → Bool

namespace Slot

def required {α : Type} (name : String) (c : Codec α) : Slot where
  Value := α
  name := name
  codec := c
  missing := none
  isOmitted _ := false

/-- Unset is written as null. -/
def nullable {α : Type} (name : String) (c : Codec α) : Slot where
  Value := Option α
  name := name
  codec := c.maybe
  missing := some none
  isOmitted _ := false

/-- Unset is not written. -/
def omittable {α : Type} (name : String) (c : Codec α) : Slot where
  Value := Option α
  name := name
  codec := c.maybe
  missing := some none
  isOmitted := Option.isNone

end Slot

def Row : List Slot → Type
  | [] => Unit
  | s :: ss => s.Value × Row ss

def Draft : List Slot → Type
  | [] => Unit
  | s :: ss => Option s.Value × Draft ss

namespace Record

def blank : (ss : List Slot) → Draft ss
  | [] => ()
  | _ :: ss => (none, blank ss)

/-- Reads what follows a key. A second entry for a slot is a fault, one for no slot is skipped. -/
def fill : (ss : List Slot) → Draft ss → String → List Token →
    Except Fault (Draft ss × List Token)
  | [], (), _, ts => do
    let ts ← Codec.expectMark .colon ts
    let ts ← skip ts
    return ((), ts)
  | s :: ss, (v, d), key, ts =>
    if key = s.name then
      match v with
      | some _ => .error .mismatched
      | none => do
        let ts ← Codec.expectMark .colon ts
        let (a, ts) ← s.codec.read ts
        return ((some a, d), ts)
    else do
      let (d, ts) ← fill ss d key ts
      return ((v, d), ts)

def finish : (ss : List Slot) → Draft ss → Except Fault (Row ss)
  | [], () => .ok ()
  | s :: ss, (v, d) =>
    match v <|> s.missing with
    | none => .error .mismatched
    | some a => (finish ss d).map fun r => (a, r)

def readEntry (ss : List Slot) (d : Draft ss) (ts : List Token) :
    Except Fault (Draft ss × List Token) := do
  let (key, ts) ← Codec.readKey ts
  fill ss d key ts

/-- The entries after the first; every entry takes at least one of the `fuel` tokens. -/
def readMore (ss : List Slot) : Nat → Draft ss → List Token → Except Fault (Draft ss × List Token)
  | fuel + 1, d, .mark .comma :: ts => do
    let (d, ts) ← readEntry ss d ts
    readMore ss fuel d ts
  | _, d, .mark .closeBrace :: ts => .ok (d, ts)
  | _, _, [] => .error .truncated
  | _, _, _ => .error .malformed

def readEntries (ss : List Slot) : List Token → Except Fault (Draft ss × List Token)
  | .mark .closeBrace :: ts => .ok (blank ss, ts)
  | ts => do
    let (d, rest) ← readEntry ss (blank ss) ts
    readMore ss ts.length d rest

/-- The place of the next item in a list that must have one. -/
def readSeparator (first : Bool) : List Token → Except Fault (List Token)
  | [] => .error .truncated
  | .mark .closeBracket :: _ => .error .mismatched
  | t :: ts =>
    if first then .ok (t :: ts)
    else
      match t, ts with
      | .mark .comma, [] => .error .truncated
      | .mark .comma, .mark .closeBracket :: _ => .error .malformed
      | .mark .comma, ts => .ok ts
      | _, _ => .error .malformed

def readItems : (ss : List Slot) → Bool → List Token → Except Fault (Row ss × List Token)
  | [], _, ts => (Codec.expectMark .closeBracket ts).map fun ts => ((), ts)
  | s :: ss, first, ts => do
    let ts ← readSeparator first ts
    let (a, ts) ← s.codec.read ts
    let (r, ts) ← readItems ss false ts
    return ((a, r), ts)

def read (ss : List Slot) : List Token → Except Fault (Row ss × List Token)
  | [] => .error .truncated
  | .mark .openBrace :: ts => do
    let (d, ts) ← readEntries ss ts
    let r ← finish ss d
    return (r, ts)
  | .mark .openBracket :: ts => readItems ss true ts
  | t :: _ => .error t.mismatch

def writeEntry (s : Slot) (a : s.Value) : List Lexeme :=
  .text s.name :: .mark .colon :: s.codec.write a

def entries : (ss : List Slot) → Row ss → List (List Lexeme)
  | [], () => []
  | s :: ss, (a, r) =>
    if s.isOmitted a then entries ss r else writeEntry s a :: entries ss r

def commaSeparated (parts : List (List Lexeme)) : List Lexeme :=
  (parts.intersperse [.mark .comma]).flatten

def write (ss : List Slot) (r : Row ss) : List Lexeme :=
  .mark .openBrace :: commaSeparated (entries ss r) ++ [.mark .closeBrace]

/-- The codec of a type whose values are the rows of a record. -/
def codec {α : Type} (ss : List Slot) (toRow : α → Row ss) (ofRow : Row ss → α) : Codec α where
  read ts := (read ss ts).map fun r => (ofRow r.1, r.2)
  write a := write ss (toRow a)

end Record

namespace Codec

/-- The items after the first, up to the closing bracket. -/
def readRest {α : Type} (c : Codec α) : Nat → List Token → Except Fault (List α × List Token)
  | fuel + 1, .mark .comma :: ts => do
    let (a, ts) ← c.read ts
    let (as, ts) ← readRest c fuel ts
    return (a :: as, ts)
  | _, .mark .closeBracket :: ts => .ok ([], ts)
  | _, [] => .error .truncated
  | _, _ => .error .malformed

/-- A list of any length. -/
def list {α : Type} (c : Codec α) : Codec (List α) where
  read
    | [] => .error .truncated
    | .mark .openBracket :: .mark .closeBracket :: ts => .ok ([], ts)
    | .mark .openBracket :: ts => do
      let (a, rest) ← c.read ts
      let (as, rest) ← readRest c ts.length rest
      return (a :: as, rest)
    | t :: _ => .error t.mismatch
  write as :=
    .mark .openBracket :: Record.commaSeparated (as.map c.write) ++ [.mark .closeBracket]

end Codec

end AnchorQueue.Json
