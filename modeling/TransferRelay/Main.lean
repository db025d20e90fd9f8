import TransferRelay.Config.Load
import TransferRelay.Http.Listen
import TransferRelay.Node.Client

/-!
# The program

Reads the settings of the service from the environment and from a file of settings, and checks that
it could start with them: the configuration, the client of the node and the spelling of the address
to listen at. It shows the configuration, or the first thing that is wrong.
-/

namespace TransferRelay.Startup

/-- The configuration with which the service can start, as it is shown, or why it cannot. -/
def check (e : Environment) : Except String String :=
  match Config.load e with
  | .error f => .error f.message
  | .ok c =>
    match Node.Client.start c.rpcUrl c.bridgeAddress.checksummed c.privateKey with
    | .error f => .error f.message
    | .ok _ =>
      match Http.listen (fun _ => true) c.bindAddress c.port with
      | .error f => .error f.message
      | .ok _ => .ok c.debugText

/-- The given variables of the process. -/
def readVariables (names : List String) : IO Environment :=
  names.foldlM (fun e name => do
    match ← IO.getEnv name with
    | some value => return e.set name value.toUTF8
    | none => return e) Environment.empty

/-- The file of settings in the working directory, if there is one. -/
def readFile? : IO (Option String) := do
  try
    return some (← IO.FS.readFile ".env")
  catch _ =>
    return none

/-- The environment of the process, with the settings of the file. -/
def readEnvironment : IO Environment := do
  let names := Variable.all.map Variable.name
  match ← readFile? with
  | none => readVariables names
  | some file => return (← readVariables (names ++ SettingsFile.mentions file)).withFile file

/-- Checks the settings in the environment. -/
def run : IO UInt32 := do
  match check (← readEnvironment) with
  | .ok shown =>
    IO.println shown
    return 0
  | .error message =>
    IO.eprintln ("Error: " ++ message)
    return 1

end TransferRelay.Startup

def main : IO UInt32 :=
  TransferRelay.Startup.run
