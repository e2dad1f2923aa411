import AnchorQueue.Text.Blank
import AnchorQueue.Text.Decimal
import AnchorQueue.Time.Instant

/-!
# Timestamps

The written form of an instant has the date, the time of day with as many of 0, 3, 6 or 9 fraction
digits as it takes, and a mark for UTC. Reading is more liberal: white space before numbers, one
digit where two are usual, any offset below a day.
-/

namespace AnchorQueue.Time.Rfc3339

open AnchorQueue.Text

/-! ## Writing -/

/-- Years from 0 to 9999 have four digits; the others have a sign and at least four. -/
def writeYear (year : Int) : List Char :=
  if year < 0 then '-' :: paddedDigits 4 year.natAbs
  else if year < 10000 then paddedDigits 4 year.natAbs
  else '+' :: paddedDigits 4 year.natAbs

def writeDate (d : Date) : List Char :=
  writeYear d.year ++ '-' :: paddedDigits 2 d.month ++ '-' :: paddedDigits 2 d.day

/-- The shortest of 0, 3, 6 and 9 digits that is exact. -/
def writeFraction (nanos : Nat) : List Char :=
  if nanos = 0 then []
  else if nanos % 1000000 = 0 then '.' :: paddedDigits 3 (nanos / 1000000)
  else if nanos % 1000 = 0 then '.' :: paddedDigits 6 (nanos / 1000)
  else '.' :: paddedDigits 9 nanos

/-- A leap second shows as second 60. -/
def writeClock (c : Clock) : List Char :=
  let shown := c.second + c.nanos / nanosPerSecond
  paddedDigits 2 c.hour ++ ':' :: paddedDigits 2 c.minute ++ ':' :: paddedDigits 2 shown ++
    writeFraction (c.nanos % nanosPerSecond)

def write (t : Instant) : List Char :=
  writeDate t.date ++ 'T' :: writeClock t.clock ++ ['Z']

/-- The form for people: a blank between date and time, and the zone by name. -/
def display (t : Instant) : String :=
  String.ofList (writeDate t.date ++ ' ' :: writeClock t.clock ++ [' ', 'U', 'T', 'C'])

/-! ## Reading -/

/-- A number of one to `most` digits; white space before it is passed over. -/
def readNumber (most : Nat) (cs : List Char) : Option (Nat × List Char) :=
  let cs := skipWhite cs
  let ds := (cs.take most).takeWhile Char.isDigit
  if ds = [] then none
  else some (ds.foldl (fun n d => n * 10 + digitValue d) 0, cs.drop ds.length)

/-- Four digits at most without a sign, any number of digits after one. -/
def readYear (cs : List Char) : Option (Int × List Char) :=
  match skipWhite cs with
  | '+' :: rest => signed rest fun n => (n : Int)
  | '-' :: rest => signed rest fun n => -(n : Int)
  | rest => (readNumber 4 rest).map fun r => (r.1, r.2)
where
  signed (rest : List Char) (f : Nat → Int) : Option (Int × List Char) :=
    match rest with
    | c :: _ => if c.isDigit then (readNumber rest.length rest).map fun r => (f r.1, r.2) else none
    | [] => none

def readMark (c : Char) (cs : List Char) : Option (List Char) :=
  match skipWhite cs with
  | d :: rest => if d = c then some rest else none
  | [] => none

def readDate (cs : List Char) : Option (Date × List Char) := do
  let (year, cs) ← readYear cs
  let cs ← readMark '-' cs
  let (month, cs) ← readNumber 2 cs
  let cs ← readMark '-' cs
  let (day, cs) ← readNumber 2 cs
  let date ← Date.ofParts? year month day
  return (date, cs)

def readSeparator : List Char → Option (List Char)
  | c :: cs => if c = 'T' || c = 't' || c = ' ' then some cs else none
  | [] => none

/-- Digits beyond the ninth are passed over. -/
def readFraction : List Char → Option (Nat × List Char)
  | '.' :: cs =>
    let ds := cs.takeWhile Char.isDigit
    if ds = [] then none
    else
      let kept := ds.take 9
      let value := kept.foldl (fun n d => n * 10 + digitValue d) 0
      some (value * Nat.pow 10 (9 - kept.length), cs.drop ds.length)
  | cs => some (0, cs)

def readClock (cs : List Char) : Option (Clock × List Char) := do
  let (hour, cs) ← readNumber 2 cs
  let cs ← readMark ':' cs
  let (minute, cs) ← readNumber 2 cs
  let cs ← readMark ':' cs
  let (second, cs) ← readNumber 2 cs
  let (nanos, cs) ← readFraction cs
  let clock ← if second = 60 then Clock.ofParts? hour minute 59 (nanosPerSecond + nanos)
    else Clock.ofParts? hour minute second nanos
  return (clock, cs)

/-- Between the hours and minutes of an offset there may be colons and white space. -/
def skipColons (cs : List Char) : List Char :=
  cs.dropWhile fun c => c = ':' || isWhite c

def twoDigits : List Char → Option (Nat × List Char)
  | a :: b :: cs =>
    if a.isDigit && b.isDigit then some (digitValue a * 10 + digitValue b, cs) else none
  | _ => none

/-- The minutes of an offset after its sign. -/
def readOffset (cs : List Char) : Option (Nat × List Char) := do
  let (hours, cs) ← twoDigits cs
  let (minutes, cs) ← twoDigits (skipColons cs)
  if minutes < 60 && hours < 24 then some (hours * 60 + minutes, cs) else none

/-- The zone as minutes ahead of UTC. -/
def readZone (cs : List Char) : Option (Int × List Char) :=
  match skipWhite cs with
  | 'Z' :: cs | 'z' :: cs => some (0, cs)
  | '+' :: cs => (readOffset cs).map fun r => (r.1, r.2)
  | '-' :: cs | '\u2212' :: cs => (readOffset cs).map fun r => (-(r.1 : Int), r.2)
  | u :: t :: c :: cs =>
    if u.toLower = 'u' && t.toLower = 't' && c.toLower = 'c' then some (0, cs) else none
  | _ => none

def read? (cs : List Char) : Option Instant := do
  let (date, cs) ← readDate cs
  let cs ← readSeparator cs
  let (clock, cs) ← readClock cs
  let (offset, cs) ← readZone cs
  if skipWhite cs = [] then Instant.ofLocal? ⟨date, clock⟩ offset else none

end AnchorQueue.Time.Rfc3339
