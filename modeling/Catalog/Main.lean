import Catalog.Command.Run

/-!
The command line: arguments, environment and files in, two output streams and an exit code out.
-/

open Catalog Command

/-- The environment as it is now. -/
def readEnvironment : IO Config.Environment := do
  let values ← Config.variableNames.mapM fun name => do return (name, ← IO.getEnv name)
  return fun name => (values.lookup name).join

/-- The text of the configuration file, if one is named and can be read. -/
def readConfigFile : Option String → IO (Option String)
  | none => return none
  | some path => do
    try
      return some (← IO.FS.readFile path)
    catch _ => return none

def randomKey : IO Paging.Key := do
  let bytes ← IO.getRandomBytes 32
  match Paging.Key.ofBytes? bytes.toList with
  | some k => return k
  | none => throw (IO.userError (Paging.Error.message .keyUnavailable))

/-- There is no way to a server from here, so a command that needs one fails to connect. -/
def main (args : List String) : IO UInt32 := do
  match Invocation.read args with
  | .error .displayHelp | .error .displayVersion => return 0
  | .error _ => return 2
  | .ok i =>
    let env ← readEnvironment
    let text ← readConfigFile i.config
    let r := Command.run ⟨fun _ => text, env, .ofEnvironment env, .unreachable, ← randomKey⟩ i
    IO.print r.output.stdout
    IO.eprint r.output.stderr
    match r.failure with
    | none => return 0
    | some (.reported message) =>
      IO.eprintln ("Error: " ++ message)
      return 1
    | some (.init e) =>
      IO.eprintln ("Error: " ++ e.message)
      return 1
