import AnchorQueue.Text.Decimal
import AnchorQueue.Text.Hex
import AnchorQueue.Text.Split

/-!
# Internet addresses

An IPv4 address is four octets with dots in between. An IPv6 address is eight groups with colons in
between, of which a double colon leaves out one or more; its last two groups may be written as an
IPv4 address. A host name has a looser form of IPv4 address, with fewer and larger numbers.
-/

namespace AnchorQueue.InternetAddress

open AnchorQueue.Text

/-- A number up to 255 without leading zeros. -/
def isOctet : List Char → Bool
  | [] => false
  | ['0'] => true
  | '0' :: _ => false
  | cs => (readDigits 256 .tooLarge 0 cs).isOk

def isIpv4 (cs : List Char) : Bool :=
  let parts := split '.' cs
  parts.length = 4 && parts.all isOctet

def isHex (c : Char) : Bool :=
  (hexValue? c).isSome

def isGroup (cs : List Char) : Bool :=
  !cs.isEmpty && cs.length ≤ 4 && cs.all isHex

/-- The number of groups that pieces make; the last piece may be an IPv4 address if that is
allowed. -/
def groupCount? (dotted : Bool) : List (List Char) → Option Nat
  | [] => some 0
  | [g] => if isGroup g then some 1 else if dotted && isIpv4 g then some 2 else none
  | g :: gs => if isGroup g then (groupCount? dotted gs).map (· + 1) else none

/-- The number of groups on one side of a double colon. -/
def sideCount? (dotted : Bool) (cs : List Char) : Option Nat :=
  if cs.isEmpty then some 0 else groupCount? dotted (split ':' cs)

/-- The texts before and after the first double colon. -/
def splitGap? : List Char → Option (List Char × List Char)
  | ':' :: ':' :: rest => some ([], rest)
  | c :: cs => (splitGap? cs).map fun sides => (c :: sides.1, sides.2)
  | [] => none

def isIpv6 (cs : List Char) : Bool :=
  match splitGap? cs with
  | none => groupCount? true (split ':' cs) = some 8
  | some (before, after) =>
    match sideCount? false before, sideCount? true after with
    | some m, some n => m + n ≤ 7
    | _, _ => false

/-- A number in a base up to 16. -/
def numberIn? (base : Nat) : Nat → List Char → Option Nat
  | acc, [] => some acc
  | acc, c :: cs =>
    match hexValue? c with
    | some d => if d < base then numberIn? base (acc * base + d) cs else none
    | none => none

/-- A part of a loose address: hexadecimal after `0x`, octal after another zero, else decimal. -/
def looseNumber? : List Char → Option Nat
  | [] => none
  | '0' :: 'x' :: cs => numberIn? 16 0 cs
  | '0' :: 'X' :: cs => numberIn? 16 0 cs
  | '0' :: c :: cs => numberIn? 8 0 (c :: cs)
  | cs => numberIn? 10 0 cs

/-- The parts of a loose address; a dot may end it. -/
def looseParts (cs : List Char) : List (List Char) :=
  let parts := split '.' cs
  if parts.getLast? = some [] then parts.dropLast else parts

/-- A host name must be a loose address if its last part is a number, or is all digits. -/
def endsInNumber (cs : List Char) : Bool :=
  match (looseParts cs).getLast? with
  | none => false
  | some part => (!part.isEmpty && part.all Char.isDigit) || (looseNumber? part).isSome

/-- At most four numbers; each but the last is one octet, and the last one fills up the four. -/
def isLooseIpv4 (cs : List Char) : Bool :=
  match (looseParts cs).mapM looseNumber? with
  | none => false
  | some ns =>
    ns.length ≤ 4 && ns.dropLast.all (· ≤ 255) &&
      (ns.getLast?.any fun n => n < Nat.pow 256 (5 - ns.length))

end AnchorQueue.InternetAddress
