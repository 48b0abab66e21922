import SessionHost.Command.Error
import SessionHost.Config.Storage
import SessionHost.Console.Logger

/-!
The commands that show and change the configuration.
-/

namespace SessionHost.Command

/-- What to do with the configuration. -/
inductive ConfigAction where
  | show
  | get (key : String)
  | set (key value : String)
  | path
  | setPath (target : Path)
deriving DecidableEq, Repr

/-- The lines that show a configuration. That it is empty is worth a line only to the curious. -/
def configLines (console : Console) (curious : Bool) (config : Config) : List String :=
  console.paint .boldGreen "Configuration:" ::
    if config.isEmpty then
      if curious then ["  " ++ console.paint .yellow "(empty)"] else []
    else config.values.map fun entry =>
      "  " ++ console.paint .cyan entry.1.name ++ ": " ++ entry.2

/-- The console with other files. -/
def withFiles (console : Console) (files : FileSystem) : Console :=
  { console with machine := { console.machine with files } }

/-- Whether the environment names a configuration file, in whatever way. -/
def hasPrecedence (env : Environment) : Bool :=
  match env.configFile with
  | some bytes => !bytes.isEmpty
  | none => false

/-- Sets a key of the saved configuration. -/
def setKey (key value : String) (console : Console) : Console × Except Config.Error Unit :=
  match Config.load console.machine >>= fun config => config.set key value with
  | .error error => (console, .error error)
  | .ok config =>
      match config.save console.machine with
      | (files, .error error) => (withFiles console files, .error error)
      | (files, .ok ()) =>
          ((withFiles console files).perform (.success ("Set " ++ key ++ " = " ++ value)), .ok ())

/-- Makes the pointer file name a path. -/
def setPath (target : Path) (console : Console) : Console × Except Config.Error Unit :=
  match Config.setPointer console.machine target with
  | (files, .error error) => (withFiles console files, .error error)
  | (files, .ok pointer) =>
      let warning : List Console.Call :=
        if hasPrecedence console.machine.environment then
          [.warn "STAGEHAND_CONFIG is set and takes precedence"]
        else []
      ((withFiles console files).performAll
        (.debug ("Wrote " ++ pointer.display) :: warning
          ++ [.success ("Config path set to " ++ target.display)]), .ok ())

/-- Shows or changes the configuration. `curious` says that the user asked for more than usual. -/
def configure (action : ConfigAction) (curious : Bool) (console : Console) :
    Console × Except Config.Error Unit :=
  match action with
  | .show =>
      match Config.load console.machine with
      | .error error => (console, .error error)
      | .ok config =>
          ((configLines console curious config).foldl (fun c line => c.print line) console, .ok ())
  | .get key =>
      match Config.load console.machine >>= fun config => config.get key with
      | .error error => (console, .error error)
      | .ok (some value) => (console.print value, .ok ())
      | .ok none => (console.perform (.warn (key ++ " is not set")), .ok ())
  | .set key value => setKey key value console
  | .path =>
      match Config.path console.machine with
      | .error error => (console, .error error)
      | .ok path => (console.print path.display, .ok ())
  | .setPath target => setPath target console

end SessionHost.Command
