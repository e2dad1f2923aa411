import AnchorQueue.Cli.Run

/-!
# The program

Reads the arguments and the environment, runs the command, and prints what it gives. No database
driver is linked in, so every connection is refused.
-/

namespace AnchorQueue.Environment

/-- What the process finds in its own variables. -/
def read : IO Environment := do
  let settings ← Variable.all.mapM fun v => return (v, ← IO.getEnv v.name)
  return fun v =>
    match settings.find? fun s => s.1 = v with
    | some (_, some value) => .text value
    | _ => .unset

end AnchorQueue.Environment

open AnchorQueue in
def main (args : List String) : IO UInt32 := do
  let exit := Cli.run args (← Environment.read) fun _ => .error (.io "no database driver")
  (← IO.getStdout).putStr exit.stdout
  (← IO.getStderr).putStr exit.stderr
  return exit.code.toUInt32
