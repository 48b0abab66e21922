import SessionHost.Config.Location
import SessionHost.Toml.Document
import SessionHost.Toml.Writer

/-!
The configuration in files.

A configuration is saved as one line per key that is set. `render` writes this form and `parse?`
reads it; it also reads any other document whose values under the four keys are texts.
-/

namespace SessionHost.Config

/-! ### The saved form -/

/-- The saved form. -/
def render (config : Config) : String :=
  String.ofList (config.values.flatMap fun entry => Toml.writeLine entry.1.name entry.2)

/-- The configuration in a document. Keys of other names do not matter. -/
def ofTable? (table : Toml.Table) : Option Config := do
  return {
    appId := ← table.optionalText? Key.appId.name
    settingsDir := ← table.optionalText? Key.settingsDir.name
    recordsDir := ← table.optionalText? Key.recordsDir.name
    logDir := ← table.optionalText? Key.logDir.name }

/-- The configuration that a saved form stands for. -/
def parse? (text : String) : Option Config := do
  ofTable? (← Toml.parse? text)

/-! ### Loading and saving -/

/-- Loads from a file. No file means nothing set. -/
def loadFrom (files : FileSystem) (path : Path) : Except Error Config :=
  if files.holds path then
    match files.readText path with
    | .error cause => .error (.read path cause)
    | .ok text =>
        match parse? text with
        | some config => .ok config
        | none => .error (.malformed path)
  else .ok {}

/-- Loads from where the configuration is found. -/
def load (machine : Machine) : Except Error Config := do
  loadFrom machine.files (← path machine)

/-- Writes a file, after making its directories. -/
def store (files : FileSystem) (path : Path) (content : Bytes) :
    FileSystem × Except Error Unit :=
  let (changed, result) := files.provide path content
  (changed, result.mapError (.write path))

/-- Saves to a file. -/
def saveTo (config : Config) (files : FileSystem) (path : Path) :
    FileSystem × Except Error Unit :=
  store files path (Text.encode config.render)

/-- Saves to where the configuration is found. -/
def save (config : Config) (machine : Machine) : FileSystem × Except Error Unit :=
  match path machine with
  | .ok path => config.saveTo machine.files path
  | .error error => (machine.files, .error error)

/-- Makes the pointer file name a path, and returns where the pointer file is. -/
def setPointer (machine : Machine) (target : Path) : FileSystem × Except Error Path :=
  match pointerPath machine.environment with
  | .error error => (machine.files, .error error)
  | .ok pointer =>
      let (files, result) := store machine.files pointer (Text.encode target.display)
      (files, result.map fun _ => pointer)

end SessionHost.Config
