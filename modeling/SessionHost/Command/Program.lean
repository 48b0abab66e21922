import SessionHost.Command.Arguments
import SessionHost.Command.Open

/-!
The whole program: a command line, carried out on a machine.
-/

namespace SessionHost.Command

open Session

/-- How a run of the program ended. -/
inductive Ended where
  | usageError
  | help
  | version
  /-- The console as it was left, and the exit code. -/
  | exit (code : Int32) (console : Console)
  /-- The console as it was left by a panic. -/
  | panic (text : String) (console : Console)

/-- The line that tells the version. -/
def versionLine : String := "stagehand 0.1.0"

/-- The configuration to start with, and why it is not the saved one if it is not. -/
def startingConfig (machine : Machine) : Config × Option Config.Error :=
  match Config.load machine with
  | .ok config => (config, none)
  | .error error => ({}, some error)

/-- The console as the options and the configuration want it. -/
def prepare (options : Options) (config : Config) (console : Console) : Console :=
  let dir := (config.logDirectory console.machine.environment).toOption
  match console.setUp options.verbosity options.quiet dir with
  | (console, .ok _) => console
  | (console, .error error) =>
      console.report ("Warning: Failed to initialize logger: " ++ error.message)

/-- The warning about a configuration that could not be loaded. -/
def warnings : Option Config.Error → List Console.Call
  | some error => [.warn ("Failed to load config: " ++ error.message)]
  | none => []

/-- Carries out a task. -/
def perform (options : Options) (task : Task) (config : Config) (fault : Option Config.Error)
    (console : Console) : Console × Outcome Error Int32 :=
  match task with
  | .config action =>
      match configure action (0 < options.verbosity) console with
      | (console, .ok ()) => (console, .ok 0)
      | (console, .error error) => (console, .failed (.config error))
  | .openProfile profile =>
      openProfile profile config.applicationId (console.performAll (warnings fault))

/-- Tells of an error, and of the log file if the user asked for more than usual. -/
def tell (options : Options) (error : Error) (console : Console) : Console :=
  console.performAll
    (.error error.message :: if 0 < options.verbosity then [.showLogPath] else [])

/-- Runs a task on a machine. -/
def runTask (options : Options) (task : Task) (console : Console) : Ended :=
  let (config, fault) := startingConfig console.machine
  match perform options task config fault (prepare options config console) with
  | (console, .ok code) => .exit code console
  | (console, .failed error) => .exit error.exitCode (tell options error console)
  | (console, .panicked text) => .panic text console

/-- Runs the program with a command line. -/
def run (words : List Bytes) (console : Console) : Ended :=
  match readArguments words with
  | .usageError => .usageError
  | .help => .help
  | .version => .version
  | .run options task => runTask options task console

end SessionHost.Command
