import FeedQuery.Program

/-!
# Running the program

The outer layer: it hands the arguments and the environment to `Program.start`, writes what that
says, and passes on lines as they are entered. It opens no connection, so every host is out of
reach, no account is ever signed in, and the time does not matter.
-/

namespace FeedQuery.Main

/-- The variables that the program looks at. -/
def watched : List String :=
  ["SKYQL_SERVICE", "SKYQL_AUTH_SERVICE", "SKYQL_IDENTIFIER", "SKYQL_PASSWORD", "SKYQL_LIMIT",
    "HOME", "USERPROFILE"]

/-- Reads the variables of the environment. -/
def environment : IO Environment :=
  watched.filterMapM fun name => do
    return (← IO.getEnv name).map fun value => (name, value)

/-- Writes what is to be written. -/
def write (console : Console) : IO Unit := do
  IO.print console.out
  IO.eprint console.err

/-- Takes lines until the last one or the end of the input. -/
partial def readLines (input : IO.FS.Stream) (prompts : Bool) (r : Repl) : IO Unit := do
  if prompts then
    IO.print r.prompt
    (← IO.getStdout).flush
  let text ← input.getLine
  if text.isEmpty then write Repl.goodbye
  else
    let l := r.typedLine text
    write l.console
    if !l.last then readLines input prompts l.repl

end FeedQuery.Main

open FeedQuery in
/-- Runs the program with the arguments of the process. -/
def main (args : List String) : IO UInt32 := do
  match Program.start args (← Main.environment) (.offline 0) with
  | .exited e =>
    Main.write e.console
    return e.code.toUInt32
  | .reading r console =>
    Main.write console
    let input ← IO.getStdin
    Main.readLines input (← input.isTty) r
    return 0
