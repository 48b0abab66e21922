import SessionHost.Config.Basic
import SessionHost.Environment

/-!
Where the configuration is found, and the directories that follow from it.

The environment may name the configuration file. Otherwise a pointer file in the program's own
directory may, and otherwise it is the file of a fixed name there.
-/

namespace SessionHost.Config

/-- The program's own directory. -/
def ownDirectory (env : Environment) : Except Error Path :=
  match env.homeDirectory? with
  | some home => .ok ((home.child ".config").child "stagehand")
  | none => .error (.noPlatformDirectory "home")

/-- The file that may name the configuration file. -/
def pointerPath (env : Environment) : Except Error Path :=
  (ownDirectory env).map (·.child ".stagehand_config_path")

/-- The path that a text names once its blanks at both ends are gone, if anything is left. -/
def namedPath? (text : String) : Option Path :=
  let trimmed := Text.trim text
  if trimmed.isEmpty then none else some (Path.ofText trimmed)

/-- The path that the environment names. A value that is no text does not count. -/
def environmentPath? (env : Environment) : Option Path := do
  namedPath? (← Text.decode? (← env.configFile))

/-- The path that the pointer file names. One that cannot be read does not count. -/
def pointedPath? (files : FileSystem) (pointer : Path) : Option Path :=
  match files.readText pointer with
  | .ok text => namedPath? text
  | .error _ => none

/-- Where the path of the configuration file was taken from. -/
inductive Source where
  | environment
  | pointer
  | fixed
deriving DecidableEq, Repr

/-- The path of the configuration file, and where it was taken from. -/
def resolve (machine : Machine) : Except Error (Source × Path) := do
  match environmentPath? machine.environment with
  | some path => return (.environment, path)
  | none =>
      let pointer ← pointerPath machine.environment
      match pointedPath? machine.files pointer with
      | some path => return (.pointer, path)
      | none => return (.fixed, (← ownDirectory machine.environment).child "stagehand.toml")

/-- The path of the configuration file. -/
def path (machine : Machine) : Except Error Path := (resolve machine).map Prod.snd

/-! ### Directories -/

/-- Where the runtime looks for an application's settings. -/
def settingsDirectory (config : Config) (env : Environment) (appId : String) :
    Except Error Path :=
  match config.settingsDir with
  | some dir => .ok (Path.ofText dir)
  | none =>
      match env.configDirectory? with
      | some base => .ok (base.child appId)
      | none => .error (.noPlatformDirectory "config")

/-- Where the runtime looks for an application's records. -/
def recordsDirectory (config : Config) (env : Environment) (appId : String) :
    Except Error Path :=
  match config.recordsDir with
  | some dir => .ok (Path.ofText dir)
  | none =>
      match env.dataDirectory? with
      | some base => .ok ((base.child appId).child "save")
      | none => .error (.noPlatformDirectory "local data")

/-- Where the log file goes. -/
def logDirectory (config : Config) (env : Environment) : Except Error Path :=
  match config.logDir with
  | some dir => .ok (Path.ofText dir)
  | none => ownDirectory env

end SessionHost.Config
