import AnchorQueue.Cli.Help
import AnchorQueue.Text.Decimal

/-!
# Reading the command line

Arguments are read from left to right. The values of an argument are pending until the next one
begins, and only then are they checked; so an argument that nobody knows is found before a fault in
the values just before it.
-/

namespace AnchorQueue.Cli

inductive UsageError
  | noCommand
  | unknownCommand (word : String)
  | unexpected (word : String)
  | unneededValue (value : String)
  | valueRequired (a : Argument)
  | repeated (a : Argument)
  | invalidValue (a : Argument) (value reason : String)
  | conflict (a b : Argument)
  | missing
  deriving DecidableEq, Repr

namespace UsageError

def message : UsageError → String
  | noCommand => Help.ofProgram
  | unknownCommand word => "error: unrecognized subcommand '" ++ word ++ "'"
  | unexpected word => "error: unexpected argument '" ++ word ++ "' found"
  | unneededValue value =>
    "error: unexpected value '" ++ value ++ "' for '--help' found; no more were expected"
  | valueRequired a =>
    "error: a value is required for '" ++ a.display ++ "' but none was supplied"
  | repeated a => "error: the argument '" ++ a.display ++ "' cannot be used multiple times"
  | invalidValue a value reason =>
    "error: invalid value '" ++ value ++ "' for '" ++ a.display ++ "': " ++ reason
  | conflict a b =>
    "error: the argument '" ++ a.display ++ "' cannot be used with '" ++ b.display ++ "'"
  | missing => "error: the following required arguments were not provided:"

end UsageError

/-- Why reading stops before there is a command. -/
inductive Stop
  | usage (e : UsageError)
  | help (t : Topic)
  deriving DecidableEq, Repr

/-! ## Values -/

/-- A signed number is read first and its range looked at then. -/
def readWord32 (value : String) : Except String UInt32 :=
  match Text.readInteger (Nat.pow 2 63) value.toList with
  | .error reason => .error reason.message
  | .ok n =>
    if 0 ≤ n && n < UInt32.size then .ok n.toNat.toUInt32
    else
      .error ((if n < 0 then "-" else "") ++ Text.decimal n.natAbs ++
        " is not in 0..=4294967295")

def readWord64 (value : String) : Except String UInt64 :=
  match Text.readNatural UInt64.size value.toList with
  | .error reason => .error reason.message
  | .ok n => .ok n.toUInt64

def valueFault? (k : ValueKind) (value : String) : Option String :=
  match k with
  | .text => none
  | .word32 => match readWord32 value with
    | .error reason => some reason
    | .ok _ => none
  | .word64 => match readWord64 value with
    | .error reason => some reason
    | .ok _ => none

def checkValues (a : Argument) : List String → Except Stop Unit
  | [] => .ok ()
  | v :: vs =>
    match valueFault? a.kind v with
    | some reason => .error (.usage (.invalidValue a v reason))
    | none => checkValues a vs

/-! ## Arguments of a command -/

/-- The values that each argument got, in the order of first appearance. -/
abbrev Matches := List (Argument × List String)

def Matches.values (m : Matches) (valueName : String) : List String :=
  match m.find? fun e => e.1.valueName = valueName with
  | some e => e.2
  | none => []

structure Progress where
  found : Matches
  pending : Option (Argument × List String)
  /-- The pending option still waits for its value. -/
  isWaiting : Bool
  position : Nat
  /-- After `--` everything is a value. -/
  isTrailing : Bool

namespace Progress

def start : Progress :=
  ⟨[], none, false, 0, false⟩

def isFound (p : Progress) (a : Argument) : Bool :=
  p.found.any fun e => e.1 = a

def record (p : Progress) (a : Argument) (values : List String) : Progress :=
  if p.isFound a then
    { p with
      pending := none
      isWaiting := false
      found := p.found.map fun e => if e.1 = a then (a, e.2 ++ values) else e }
  else { p with pending := none, isWaiting := false, found := p.found ++ [(a, values)] }

/-- Checks the pending values and files them. -/
def settle (p : Progress) : Except Stop Progress :=
  match p.pending with
  | none => .ok p
  | some (a, []) => .error (.usage (.valueRequired a))
  | some (a, values) =>
    if p.isFound a && !a.isMany then .error (.usage (.repeated a))
    else
      match checkValues a values with
      | .error e => .error e
      | .ok () => .ok (p.record a values)

/-- The next value for an argument known by its place. -/
def readPlace (s : CommandSpec) (p : Progress) (word : String) : Except Stop Progress :=
  match s.places[p.position]? with
  | none => .error (.usage (.unexpected word))
  | some a =>
    match p.pending with
    | some (b, values) =>
      if a = b && a.isMany then .ok { p with pending := some (a, values ++ [word]) }
      else next a
    | none => next a
where
  next (a : Argument) : Except Stop Progress := do
    let p ← p.settle
    return { p with
      pending := some (a, [word])
      isWaiting := false
      position := if a.isMany then p.position else p.position + 1 }

/-- A word that starts with two dashes, without them; what follows `=` is a value. -/
def readLong (s : CommandSpec) (p : Progress) (cs : List Char) : Except Stop Progress :=
  let name := String.ofList (cs.takeWhile (· ≠ '='))
  let attached := (cs.dropWhile (· ≠ '=')).tail?.map String.ofList
  if name = "help" then
    match attached with
    | some value => .error (.usage (.unneededValue value))
    | none => do
      let _ ← p.settle
      .error (.help (.command s))
  else
    match s.options.find? fun a => a.long = some name with
    | none => .error (.usage (.unexpected ("--" ++ name)))
    | some a => do
      let p ← p.settle
      match attached with
      | some value => settle { p with pending := some (a, [value]) }
      | none => return { p with pending := some (a, []), isWaiting := true }

/-- A word that starts with one dash: the only letter is the one for help. -/
def readShort (s : CommandSpec) (p : Progress) (c : Char) : Except Stop Progress :=
  if c = 'h' then do
    let _ ← p.settle
    .error (.help (.command s))
  else .error (.usage (.unexpected (String.ofList ['-', c])))

def readValue (s : CommandSpec) (p : Progress) (word : String) : Except Stop Progress :=
  match p.pending with
  | some (a, values) =>
    if p.isWaiting then .ok { p with pending := some (a, values ++ [word]), isWaiting := false }
    else readPlace s p word
  | none => readPlace s p word

def read (s : CommandSpec) (p : Progress) (word : String) : Except Stop Progress :=
  if p.isTrailing then readPlace s p word
  else
    match word.toList with
    | ['-', '-'] => .ok { p with isTrailing := true }
    | '-' :: '-' :: cs => readLong s p cs
    | '-' :: c :: _ => readShort s p c
    | _ => readValue s p word

def readAll (s : CommandSpec) (p : Progress) : List String → Except Stop Progress
  | [] => p.settle
  | word :: words =>
    match p.read s word with
    | .error e => .error e
    | .ok p => readAll s p words

end Progress

/-- The other argument that does not go with this one. -/
def rival? (s : CommandSpec) (m : Matches) (a : Argument) : Option Argument :=
  (m.map Prod.fst).find? fun b =>
    (a.valueName, b.valueName) ∈ s.conflicts || (b.valueName, a.valueName) ∈ s.conflicts

def checkConflicts (s : CommandSpec) (m : Matches) : Except Stop Unit :=
  match (m.map Prod.fst).findSome? fun a => (rival? s m a).map fun b => (a, b) with
  | some (a, b) => .error (.usage (.conflict a b))
  | none => .ok ()

def parseArguments (s : CommandSpec) (words : List String) : Except Stop Matches := do
  let p ← Progress.start.readAll s words
  checkConflicts s p.found
  return p.found

/-! ## The program -/

def findCommand? (word : String) : Option CommandSpec :=
  commandSpecs.find? fun s => s.name = word

/-- The topic after `help`; no command has commands of its own. -/
def helpTopic : List String → Except Stop Topic
  | [] => .ok .program
  | word :: words =>
    let topic := if word = "help" then some Topic.helpCommand
      else (findCommand? word).map Topic.command
    match topic, words with
    | none, _ => .error (.usage (.unknownCommand word))
    | some t, [] => .ok t
    | some _, next :: _ => .error (.usage (.unknownCommand next))

/-- What is wrong with a first word that is no command. -/
def rootStop (word : String) (words : List String) : Stop :=
  match word.toList with
  | ['-', '-'] =>
    match words with
    | [] => .usage .noCommand
    | next :: _ =>
      if next = "help" || (findCommand? next).isSome then .usage (.unexpected next)
      else .usage (.unknownCommand next)
  | '-' :: '-' :: cs =>
    let name := String.ofList (cs.takeWhile (· ≠ '='))
    if name = "help" then
      match (cs.dropWhile (· ≠ '=')).tail? with
      | some value => .usage (.unneededValue (String.ofList value))
      | none => .help .program
    else .usage (.unexpected ("--" ++ name))
  | '-' :: c :: _ =>
    if c = 'h' then .help .program else .usage (.unexpected (String.ofList ['-', c]))
  | _ => .usage (.unknownCommand word)

/-- The command and its arguments. -/
def parse : List String → Except Stop (CommandSpec × Matches)
  | [] => .error (.usage .noCommand)
  | word :: words =>
    match findCommand? word with
    | some s => (parseArguments s words).map fun m => (s, m)
    | none =>
      if word = "help" then
        match helpTopic words with
        | .ok t => .error (.help t)
        | .error e => .error e
      else .error (rootStop word words)

end AnchorQueue.Cli
