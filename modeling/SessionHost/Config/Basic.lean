import SessionHost.FileSystem.Error
import SessionHost.Path
import SessionHost.Text.Blank

/-!
The configuration: four texts, each set or not, under fixed names.
-/

namespace SessionHost

/-- The application id and the directories for settings, records and logs. -/
structure Config where
  appId : Option String := none
  settingsDir : Option String := none
  recordsDir : Option String := none
  logDir : Option String := none
deriving DecidableEq, Repr

namespace Config

/-- What keeps a configuration from being found, read, written or asked. -/
inductive Error where
  /-- The platform names no directory of this kind. -/
  | noPlatformDirectory (kind : String)
  | read (path : Path) (cause : FileSystem.Error)
  | write (path : Path) (cause : FileSystem.Error)
  | malformed (path : Path)
  | unknownKey (key : String)
deriving DecidableEq, Repr

/-- The error in words, without the details of a malformed file. -/
def Error.summary : Error → String
  | noPlatformDirectory kind =>
      "Could not determine the " ++ kind ++ " directory for this platform"
  | read path cause => "Failed to read config file " ++ path.display ++ ": " ++ cause.message
  | write path cause => "Failed to write config file " ++ path.display ++ ": " ++ cause.message
  | malformed path => "Invalid config file " ++ path.display ++ ": "
  | unknownKey key => "Unknown config key '" ++ key ++ "'"

/-- The error in words. -/
def Error.message (error : Error) : String :=
  match error with
  | malformed _ => error.summary ++ "TOML parse error"
  | _ => error.summary

/-- The names under which values are set and saved. -/
inductive Key where
  | appId
  | settingsDir
  | recordsDir
  | logDir
deriving DecidableEq, Repr

namespace Key

/-- The keys in the order in which they are listed and saved. -/
def all : List Key := [appId, settingsDir, recordsDir, logDir]

def name : Key → String
  | appId => "app-id"
  | settingsDir => "settings-dir"
  | recordsDir => "records-dir"
  | logDir => "log-dir"

/-- The key with a name, if there is one. -/
def ofName? (text : String) : Option Key := all.find? (·.name = text)

end Key

/-- The value of a key. -/
def value? (config : Config) : Key → Option String
  | .appId => config.appId
  | .settingsDir => config.settingsDir
  | .recordsDir => config.recordsDir
  | .logDir => config.logDir

/-- The configuration with a key set. -/
def put (config : Config) (key : Key) (value : String) : Config :=
  match key with
  | .appId => { config with appId := some value }
  | .settingsDir => { config with settingsDir := some value }
  | .recordsDir => { config with recordsDir := some value }
  | .logDir => { config with logDir := some value }

/-- The key that a name stands for. -/
def key (name : String) : Except Error Key :=
  match Key.ofName? name with
  | some key => .ok key
  | none => .error (.unknownKey name)

/-- The value under a name. -/
def get (config : Config) (name : String) : Except Error (Option String) :=
  (key name).map config.value?

/-- The configuration with the value under a name set. -/
def set (config : Config) (name value : String) : Except Error Config :=
  (key name).map (config.put · value)

/-- The keys that are set, with their values. -/
def values (config : Config) : List (Key × String) :=
  Key.all.filterMap fun key => (config.value? key).map fun value => (key, value)

/-- Whether no key is set. -/
def isEmpty (config : Config) : Bool :=
  config.appId.isNone && config.settingsDir.isNone && config.recordsDir.isNone
    && config.logDir.isNone

/-- The id of a host that has none configured. -/
def defaultAppId : String := "io.stagehand.host"

/-- The application id to use: a blank one does not count. -/
def applicationId (config : Config) : String :=
  match config.appId with
  | some id => if Text.allBlank id then defaultAppId else id
  | none => defaultAppId

end Config

end SessionHost
