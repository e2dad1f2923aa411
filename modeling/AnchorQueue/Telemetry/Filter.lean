import AnchorQueue.Text.Alphanumeric
import AnchorQueue.Text.Blank
import AnchorQueue.Text.Decimal
import AnchorQueue.Text.Split

/-!
# Log filters

A filter is a list of directives with commas in between. A directive names a target, a span with
the fields it must have, a level, or several of them: `target[span{field}]=level`. A faulty
directive is passed over with a notice.
-/

namespace AnchorQueue.LogFilter

open AnchorQueue.Text (split trimChars)

inductive Fault
  | form
  | level
  deriving DecidableEq, Repr

def levelNames : List String :=
  ["off", "error", "warn", "info", "debug", "trace"]

def Fault.message : Fault → String
  | form => "invalid filter directive"
  | level => "error parsing level filter: expected one of \"off\", \"error\", \"warn\", " ++
      "\"info\", \"debug\", \"trace\", or a number 0-5"

/-- A name in either case, or its number; no text at all stands for every level. -/
def isLevel (cs : List Char) : Bool :=
  cs.isEmpty || levelNames.contains (String.ofList (cs.map Char.toLower)) ||
    match Text.readNatural UInt64.size cs with
    | .ok n => n ≤ 5
    | .error _ => false

/-- A level counts only where no blanks surround the directive. -/
def checkLevel (exact : Bool) (cs : List Char) : Except Fault Unit :=
  if exact && isLevel cs then .ok () else .error .level

def checkAfterSpan (exact : Bool) : List Char → Except Fault Unit
  | [] => .ok ()
  | '=' :: cs => checkLevel exact cs
  | _ => .error .form

/-- The fields of a span, after the brace that opens them. There is at least one. -/
def checkFields (exact : Bool) (cs : List Char) : Except Fault Unit :=
  match cs.takeWhile (· ≠ '\x7d'), cs.dropWhile (· ≠ '\x7d') with
  | _ :: _, '\x7d' :: ']' :: rest => checkAfterSpan exact rest
  | _, _ => .error .form

def checkSpan (exact : Bool) (cs : List Char) : Except Fault Unit :=
  match cs.dropWhile fun c => c ≠ ']' && c ≠ '\x7b' with
  | ']' :: rest => checkAfterSpan exact rest
  | '\x7b' :: rest => checkFields exact rest
  | _ => .error .form

/-- The first character of a target or a level. -/
def isNameStart (c : Char) : Bool :=
  c = '-' || c = ':' || c = '_' || Text.alphanumeric.has c

/-- A name without more may be a target or a level, so any name will do. -/
def checkName (exact : Bool) (cs : List Char) : Except Fault Unit :=
  match cs.dropWhile fun c => c ≠ '=' && c ≠ '[' with
  | '=' :: rest => checkLevel exact rest
  | '[' :: rest => checkSpan exact rest
  | _ => .ok ()

def checkDirective (directive : List Char) : Except Fault Unit :=
  let cs := trimChars directive
  let exact := cs = directive
  match cs with
  | '[' :: rest => checkSpan exact rest
  | c :: rest => if isNameStart c then checkName exact rest else .error .form
  | [] => .error .form

def directives (filter : String) : List (List Char) :=
  (split ',' filter.toList).filter fun d => !d.isEmpty

def notice? (directive : List Char) : Option String :=
  match checkDirective directive with
  | .ok () => none
  | .error f => some ("ignoring `" ++ String.ofList directive ++ "`: " ++ f.message ++ "\n")

/-- A line for each faulty directive. -/
def notices (filter : String) : String :=
  String.join ((directives filter).filterMap notice?)

end AnchorQueue.LogFilter
