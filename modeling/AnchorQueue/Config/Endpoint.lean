import AnchorQueue.Text.CharSet

/-!
# Collector endpoints

The form of an endpoint: a path, a host, or a scheme with a host and a path.
-/

namespace AnchorQueue.Endpoint

open AnchorQueue.Text (CharSet)

inductive Fault
  | tooLong
  | invalidChar
  | invalidAuthority
  | invalidFormat
  | schemeTooLong
  | empty
  deriving DecidableEq, Repr

def Fault.message : Fault → String
  | tooLong => "uri too long"
  | invalidChar => "invalid uri character"
  | invalidAuthority => "invalid authority"
  | invalidFormat => "invalid format"
  | schemeTooLong => "scheme too long"
  | empty => "empty string"

/-- `+`, `-`, `.`, digits, letters and `~`. -/
def schemeChars : CharSet :=
  [(0x2B, 0x2B), (0x2D, 0x2E), (0x30, 0x39), (0x41, 0x5A), (0x61, 0x7A), (0x7E, 0x7E)]

/-- The unreserved and reserved characters of a URI. -/
def uriChars : CharSet :=
  [(0x21, 0x21), (0x23, 0x24), (0x26, 0x3B), (0x3D, 0x3D), (0x3F, 0x5B), (0x5D, 0x5D),
    (0x5F, 0x5F), (0x61, 0x7A), (0x7E, 0x7E)]

def pathChars : CharSet :=
  [(0x21, 0x22), (0x24, 0x3B), (0x3D, 0x3D), (0x40, 0x5F), (0x61, 0x7E), (0x80, 0x10FFFF)]

def queryChars : CharSet :=
  [(0x21, 0x21), (0x24, 0x3B), (0x3D, 0x3D), (0x3F, 0x7E), (0x80, 0x10FFFF)]

def utf8Length (cs : List Char) : Nat :=
  cs.foldl (fun n c => n + c.utf8Size) 0

/-- What the characters of an authority have shown so far. -/
structure Authority where
  colons : Nat
  opened : Bool
  closed : Bool
  percent : Bool
  /-- The last character was an at sign. -/
  atEnd : Bool

namespace Authority

def start : Authority :=
  ⟨0, false, false, false, false⟩

def step (a : Authority) (c : Char) : Except Fault Authority :=
  if c = ':' then
    if 8 ≤ a.colons then .error .invalidAuthority
    else .ok { a with colons := a.colons + 1, atEnd := false }
  else if c = '[' then
    if a.percent || a.opened then .error .invalidAuthority
    else .ok { a with opened := true, atEnd := false }
  else if c = ']' then
    if !a.opened || a.closed then .error .invalidAuthority
    else .ok { a with closed := true, colons := 0, percent := false, atEnd := false }
  else if c = '@' then .ok { a with colons := 0, percent := false, atEnd := true }
  else if c = '%' then .ok { a with percent := true, atEnd := false }
  else if uriChars.has c then .ok { a with atEnd := false }
  else .error .invalidChar

def isComplete (a : Authority) : Bool :=
  a.opened = a.closed && a.colons ≤ 1 && !a.atEnd && !a.percent

/-- The text after the authority, which ends before a slash, a question mark or a hash. -/
def read (a : Authority) : List Char → Except Fault (List Char)
  | [] => if a.isComplete then .ok [] else .error .invalidAuthority
  | c :: cs =>
    if c = '/' || c = '?' || c = '#' then
      if a.isComplete then .ok (c :: cs) else .error .invalidAuthority
    else
      match a.step c with
      | .error f => .error f
      | .ok a => read a cs

end Authority

def checkQuery : List Char → Except Fault Unit
  | [] => .ok ()
  | c :: cs =>
    if c = '#' then .ok ()
    else if queryChars.has c then checkQuery cs
    else .error .invalidChar

def checkPath : List Char → Except Fault Unit
  | [] => .ok ()
  | c :: cs =>
    if c = '?' then checkQuery cs
    else if c = '#' then .ok ()
    else if pathChars.has c then checkPath cs
    else .error .invalidChar

/-- The text after a scheme and `://`, if the endpoint starts with them and is more than that. An
empty scheme will do. -/
def afterScheme (cs : List Char) : Except Fault (Option (List Char)) :=
  let scheme := cs.takeWhile schemeChars.has
  match cs.drop scheme.length with
  | ':' :: '/' :: '/' :: rest =>
    if scheme = [] ∧ rest = [] then .ok none
    else if 64 < scheme.length then .error .schemeTooLong
    else .ok (some rest)
  | _ => .ok none

def checkFull (cs : List Char) : Except Fault Unit := do
  match ← afterScheme cs with
  | none =>
    let rest ← Authority.start.read cs
    if rest = [] then .ok () else .error .invalidFormat
  | some [] => .error .empty
  | some cs =>
    let rest ← Authority.start.read cs
    if rest.length = cs.length then .error .invalidFormat else checkPath rest

def checkChars : List Char → Except Fault Unit
  | [] => .error .empty
  | ['/'] => .ok ()
  | ['*'] => .ok ()
  | '/' :: cs => checkPath ('/' :: cs)
  | [c] => do
    let rest ← Authority.start.read [c]
    if rest = [] then .ok () else .error .invalidChar
  | cs => checkFull cs

def check (s : String) : Except Fault Unit :=
  if 65534 < utf8Length s.toList then .error .tooLong else checkChars s.toList

end AnchorQueue.Endpoint
