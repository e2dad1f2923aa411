import AnchorQueue.Cli.Spec

/-!
# Help texts

The help of the program and of each command, made from what is known about the commands.
-/

namespace AnchorQueue.Cli

def programName : String :=
  "logaudit"

def programAbout : String :=
  "Log audit task store"

def helpCommandAbout : String :=
  "Print this message or the help of the given subcommand(s)"

/-- What help is asked for. -/
inductive Topic
  | program
  | helpCommand
  | command (s : CommandSpec)
  deriving DecidableEq, Repr

namespace Help

/-- Two columns, the first as wide as its widest entry. -/
def table (rows : List (String × String)) : String :=
  let width := (rows.map fun r => r.1.length).foldl max 0
  String.join (rows.map fun r =>
    "  " ++ r.1 ++ String.ofList (List.replicate (width - r.1.length) ' ') ++ "  " ++ r.2 ++ "\n")

def helpRow : String × String :=
  ("-h, --help", "Print help")

def optionRows (s : CommandSpec) : List (String × String) :=
  s.options.map (fun a => ("    " ++ a.display, a.help)) ++ [helpRow]

/-- Options that may be left out go together under one name. -/
def usage (s : CommandSpec) : String :=
  let required := s.options.filter Argument.isRequired
  let parts := (if required.length < s.options.length then ["[OPTIONS]"] else []) ++
    required.map Argument.display ++ s.places.map Argument.display
  "Usage: " ++ programName ++ " " ++ s.name ++ String.join (parts.map fun p => " " ++ p)

def argumentSection (s : CommandSpec) : String :=
  if s.places.isEmpty then ""
  else "Arguments:\n" ++ table (s.places.map fun a => (a.display, a.help)) ++ "\n"

def ofCommand (s : CommandSpec) : String :=
  s.about ++ "\n\n" ++ usage s ++ "\n\n" ++ argumentSection s ++ "Options:\n" ++
    table (optionRows s)

def ofProgram : String :=
  programAbout ++ "\n\nUsage: " ++ programName ++ " <COMMAND>\n\nCommands:\n" ++
    table (commandSpecs.map (fun s => (s.name, s.about)) ++ [("help", helpCommandAbout)]) ++
    "\nOptions:\n" ++ table [helpRow]

def ofHelpCommand : String :=
  helpCommandAbout ++ "\n\nUsage: " ++ programName ++ " help [COMMAND]...\n\nArguments:\n" ++
    table [("[COMMAND]...", "Print help for the subcommand(s)")]

end Help

def Topic.text : Topic → String
  | program => Help.ofProgram
  | helpCommand => Help.ofHelpCommand
  | command s => Help.ofCommand s

end AnchorQueue.Cli
