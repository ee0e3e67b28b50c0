/-
# The program

Reads the command line, the environment and the app settings file. There is no connection
to an API server in this program: it examines settings and says what is wrong with them.
-/

import PlatformApps.CommandLine

namespace PlatformApps

/-- The reason why a file cannot be read, in the words of the system. -/
def fileFault : IO.Error → String
  | .noFileOrDirectory .. => "No such file or directory (os error 2)"
  | .permissionDenied .. => "Permission denied (os error 13)"
  | other => toString other

/-- The environment variables that stand in for options. -/
def readEnvironment : IO (Table String String) := do
  let entries ← CommandLine.standIns.filterMapM fun name => do
    return (← IO.getEnv name).map (name, ·)
  return Table.ofList entries

/-- Ends with a failure. -/
def failed (message : String) (code : UInt32) : IO UInt32 := do
  IO.eprintln ("Error: " ++ message)
  return code

/-- Examines the settings of a run. -/
def runOperator (options : RunOptions) : IO UInt32 := do
  let file ← try
      let content ← IO.FS.readFile options.appConfig
      pure (Except.ok content)
    catch fault => pure (Except.error (fileFault fault))
  match options.settings file with
  | .error failure => failed failure.message 1
  | .ok settings =>
    IO.println settings.toJson.render
    failed "no connection to an API server" 1

def execute (command : Command) : IO UInt32 := do
  match command with
  | .version =>
    IO.println (projectName ++ " v" ++ operatorVersion)
    return 0
  | .info _ => failed "no connection to an API server" 1
  | .run options => runOperator options

end PlatformApps

open PlatformApps in
def main (arguments : List String) : IO UInt32 := do
  let environment ← readEnvironment
  match Command.parse environment.find? arguments with
  | .ok command => execute command
  | .error refusal =>
    if refusal.isAnswer then
      IO.println refusal.message
      return 0
    else failed refusal.message 2
