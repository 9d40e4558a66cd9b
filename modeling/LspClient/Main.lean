import LspClient.CommandLine.Arguments
import LspClient.Config.File
import LspClient.Endpoint

/-!
# The program

This layer reads the environment and the files and prints what comes of it; what is decided
is decided by the functions that it calls. The library has no sockets, so the program sets
up its session and then reports that the server cannot be reached.
-/

namespace LspClient.CommandLine

/-- What lies at a path. -/
def findFile (path : String) : IO FileContent := do
  try
    return .data (← IO.FS.readBinFile path).toList
  catch
    | .noFileOrDirectory .. => return .missing
    | .inappropriateType .. => return .directory
    | e => return .barred (toString e)

/-- The environment, as far as these variables go. -/
def readEnvironment (names : List String) : IO Environment := do
  let entries ← names.filterMapM fun name => do
    return (← IO.getEnv name).map fun value => (name, Utf8.ofString value)
  return { entries }

/-- The configuration. One that is asked for has to be there; one at the usual place that
cannot be used is passed over with a warning. -/
def readConfig (a : Arguments) : IO (Except ConfigError (Option Config)) := do
  match a.config? with
  | some path => return (Config.loadFrom path (← findFile path)).map some
  | none =>
    let env ← readEnvironment [Config.pathVariable, "HOME"]
    let content ← (Config.path? env).mapM findFile
    match Config.load env fun _ => content.getD .missing with
    | .ok config? => return .ok config?
    | .error e =>
      IO.eprintln ("Ignoring config file: " ++ e.message)
      return .ok none

/-- Reports why the program ends, and gives its exit code. -/
def fail (reason : String) : IO UInt32 := do
  IO.eprintln ("Error: " ++ reason)
  return 1

/-- Why no session gets a connection. -/
def noSockets : ConnectError := .failed "sockets are not available"

/-- Sets up the session that the arguments and the configuration describe. -/
def runSession (a : Arguments) (config? : Option Config) : IO UInt32 := do
  let endpoint? := config?.bind (·.endpoint?)
  let env ← readEnvironment ((endpoint?.bind (·.url?)).map Config.references |>.getD [])
  match resolveEndpoint a endpoint? env with
  | .error e => fail e.message
  | .ok endpoint =>
    match endpoint.session ((config?.map Config.settings).getD {}) with
    | .error e => fail e.toConnectError.message
    | .ok session => fail ("connecting to " ++ session.endpoint ++ ": " ++ noSockets.message)

/-- Runs the program with its arguments, and gives its exit code. -/
def runProgram (arguments : List String) : IO UInt32 := do
  match Command.parse arguments with
  | .error e => fail e.message
  | .ok .help =>
    IO.println usage
    return 0
  | .ok (.run a) =>
    match ← readConfig a with
    | .error e => fail e.message
    | .ok config? => runSession a config?

end LspClient.CommandLine

/-- The program. -/
def main (arguments : List String) : IO UInt32 := LspClient.CommandLine.runProgram arguments
