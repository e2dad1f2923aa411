import AnchorQueue.Json.Token

/-!
# Passing over a value

A value under an unknown key is passed over with regard to its form only, however deep it goes. The
open lists and objects around the place are kept on a stack.
-/

namespace AnchorQueue.Json

inductive Frame
  | list
  | object
  deriving DecidableEq, Repr

def Frame.closing : Frame → Mark
  | list => .closeBracket
  | object => .closeBrace

/-- What has to come next: the rule at each place of a value. -/
inductive Place
  | value
  | first
  | key
  | colon
  | next
  deriving DecidableEq, Repr

namespace Skip

/-- Where a single token leads. -/
inductive Move
  | fault (f : Fault)
  | goto (p : Place) (frames : List Frame)
  | done

/-- A value has ended inside these frames. -/
def ended : List Frame → Move
  | [] => .done
  | frames => .goto .next frames

def atValue (frames : List Frame) : Token → Move
  | .mark .openBracket => .goto .first (.list :: frames)
  | .mark .openBrace => .goto .first (.object :: frames)
  | t =>
    match t.scalarForm with
    | some (.ok ()) => ended frames
    | some (.error f) => .fault f
    | none => .fault .malformed

def atKey (frames : List Frame) : Token → Move
  | .text _ (.ok ()) => .goto .colon frames
  | .text _ (.error f) => .fault f
  | _ => .fault .malformed

def atItem (frames : List Frame) (t : Token) : Move :=
  match frames with
  | .object :: _ => atKey frames t
  | _ => atValue frames t

def isClosing (frames : List Frame) : Token → Bool
  | .mark m => (frames.head?.map Frame.closing) = some m
  | _ => false

def move (p : Place) (frames : List Frame) (t : Token) : Move :=
  match p with
  | .value => atValue frames t
  | .first => if isClosing frames t then ended frames.tail else atItem frames t
  | .key => atKey frames t
  | .colon =>
    match t with
    | .mark .colon => .goto .value frames
    | _ => .fault .malformed
  | .next =>
    if isClosing frames t then ended frames.tail
    else
      match t with
      | .mark .comma => .goto (if frames.head? = some .object then .key else .value) frames
      | _ => .fault .malformed

def run : Place → List Frame → List Token → Except Fault (List Token)
  | _, _, [] => .error .truncated
  | p, frames, t :: ts =>
    match move p frames t with
    | .fault f => .error f
    | .goto p frames => run p frames ts
    | .done => .ok ts

end Skip

/-- The tokens after one value. -/
def skip (ts : List Token) : Except Fault (List Token) :=
  Skip.run .value [] ts

end AnchorQueue.Json
