import AnchorQueue.Job.Status
import AnchorQueue.Json.Lexer
import AnchorQueue.Time.Rfc3339

/-!
# Codecs

A codec reads a value off the front of the tokens and writes a value as lexemes.
-/

namespace AnchorQueue.Json

open AnchorQueue.Time (Instant)

structure Codec (α : Type) where
  read : List Token → Except Fault (α × List Token)
  write : α → List Lexeme

/-- Whatever follows, a written value is read back. -/
def Codec.RoundTrips {α : Type} (c : Codec α) : Prop :=
  ∀ (a : α) (rest : List Token), c.read ((c.write a).map Lexeme.token ++ rest) = .ok (a, rest)

/-- Reads a whole text. -/
def decode {α : Type} (c : Codec α) (text : String) : Except Fault α :=
  match c.read (lex text.toList) with
  | .error f => .error f
  | .ok (a, []) => .ok a
  | .ok (_, _ :: _) => .error .malformed

def encode {α : Type} (c : Codec α) (a : α) : String :=
  String.ofList (writeLexemes (c.write a))

namespace Codec

def readText : List Token → Except Fault (String × List Token)
  | [] => .error .truncated
  | .text value _ :: ts => value.map fun s => (s, ts)
  | t :: _ => .error t.mismatch

def readNumber : List Token → Except Fault (Option Nat × List Token)
  | [] => .error .truncated
  | .number value _ :: ts => value.map fun n => (n, ts)
  | t :: _ => .error t.mismatch

def text : Codec String where
  read := readText
  write s := [.text s]

/-- A text that stands for a value. -/
def ofText {α : Type} (parse : String → Option α) (print : α → String) : Codec α where
  read ts :=
    match readText ts with
    | .error f => .error f
    | .ok (s, ts) =>
      match parse s with
      | some a => .ok (a, ts)
      | none => .error .mismatched
  write a := [.text (print a)]

/-- A number that stands for a value. -/
def ofNumber {α : Type} (parse : Nat → Option α) (print : α → Nat) : Codec α where
  read ts :=
    match readNumber ts with
    | .error f => .error f
    | .ok (n, ts) =>
      match n.bind parse with
      | some a => .ok (a, ts)
      | none => .error .mismatched
  write a := [.number (print a)]

def time : Codec Instant :=
  ofText (fun s => Time.Rfc3339.read? s.toList) fun t => String.ofList (Time.Rfc3339.write t)

def word32 : Codec UInt32 :=
  ofNumber (fun n => if n < UInt32.size then some n.toUInt32 else none) UInt32.toNat

def word64 : Codec UInt64 :=
  ofNumber (fun n => if n < UInt64.size then some n.toUInt64 else none) UInt64.toNat

/-- A value that may be null. -/
def maybe {α : Type} (c : Codec α) : Codec (Option α) where
  read
    | .null form :: ts => form.map fun _ => (none, ts)
    | ts => (c.read ts).map fun r => (some r.1, r.2)
  write
    | none => [.null]
    | some a => c.write a

def expectMark (m : Mark) : List Token → Except Fault (List Token)
  | [] => .error .truncated
  | .mark k :: ts => if k = m then .ok ts else .error .malformed
  | _ => .error .malformed

def expectNull : List Token → Except Fault (List Token)
  | [] => .error .truncated
  | .null form :: ts => form.map fun _ => ts
  | t :: _ => .error t.mismatch

/-- The key of an entry. What is no string is bad form here, whatever it starts like. -/
def readKey : List Token → Except Fault (String × List Token)
  | [] => .error .truncated
  | .text value _ :: ts => value.map fun s => (s, ts)
  | _ => .error .malformed

def statusNamed (name : String) : Except Fault Status :=
  match Status.ofName? name with
  | some s => .ok s
  | none => .error .mismatched

def statusName : Codec Status :=
  ofText Status.ofName? Status.name

/-- A status is its name, or an object with the name as its only key and null as the value. -/
def readStatus : List Token → Except Fault (Status × List Token)
  | [] => .error .truncated
  | .mark .openBrace :: ts => do
    let (name, ts) ← readKey ts
    let s ← statusNamed name
    let ts ← expectMark .colon ts
    let ts ← expectNull ts
    let ts ← expectMark .closeBrace ts
    return (s, ts)
  | .text value skim :: ts => statusName.read (.text value skim :: ts)
  | _ => .error .malformed

def status : Codec Status where
  read := readStatus
  write := statusName.write

end Codec

end AnchorQueue.Json
