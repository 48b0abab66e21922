import SessionHost.Config.Location
import SessionHost.Engine.Plugin
import SessionHost.Engine.Record
import SessionHost.Engine.Settings
import SessionHost.Protocol.Event
import SessionHost.Session.Script

/-!
Opening profiles for an application.

An open reports what it is about to load and then loads it. The profile and the plugin directory
must be readable; settings, manifests and records that are not are done without.
-/

namespace SessionHost.Engine

open Protocol Session

/-- What the engine keeps for an application: its id and configuration, the settings that the last
open loaded, and the profile, plugins and records of the last open that succeeded. -/
structure Application where
  id : String
  config : Config
  settings : Option Settings
  profile : Option Profile
  plugins : List Plugin
  records : List SavedRecord

namespace Application

/-- An application for which nothing was opened yet. -/
def fresh (id : String) (config : Config) : Application := ⟨id, config, none, none, [], []⟩

/-- The settings of the application, with the defaults where they cannot be loaded. -/
def loadSettings (app : Application) (machine : Machine) : Settings :=
  match app.config.settingsDirectory machine.environment app.id with
  | .error _ => {}
  | .ok dir =>
      match Settings.load machine.files dir with
      | .ok settings => settings
      | .error _ => {}

/-- The directory that holds the records of a profile. -/
def recordsDirectory (app : Application) (machine : Machine) (profile : Profile) :
    Except Config.Error Path :=
  (app.config.recordsDirectory machine.environment app.id).map (·.child profile.title)

/-- The records of a profile, none where they cannot be loaded. -/
def loadRecords (app : Application) (machine : Machine) (profile : Profile) : List SavedRecord :=
  match app.recordsDirectory machine profile with
  | .error _ => []
  | .ok dir =>
      match SavedRecord.loadAll machine.files dir with
      | .ok records => records
      | .error _ => []

/-- The plugin of an entry. -/
def loadPlugin (machine : Machine) (entry : PluginEntry) : Plugin :=
  match Manifest.load machine.files entry.path with
  | .ok manifest => ⟨entry.name, some manifest⟩
  | .error _ => ⟨entry.name, none⟩

/-- The event that announces an entry by its place among `count`. -/
def announce (count index : Nat) (entry : PluginEntry) : Event :=
  .loadPlugin ⟨Text.encode entry.name, index.toUInt64, count.toUInt64⟩

/-- Announces and loads each of the entries, the first of which has the place `index`. -/
def loadPlugins (count : Nat) : Nat → List PluginEntry → Script Event Machine (List Plugin)
  | _, [] => return []
  | index, entry :: rest => do
      Script.tell (announce count index entry)
      let plugin ← Script.observe fun machine => loadPlugin machine entry
      return plugin :: (← loadPlugins count (index + 1) rest)

/-- Opens the profile at a path, and returns the application with what was loaded. Each thing is kept
when it is loaded, but for the profile, which is kept last. -/
def openProfile (path : Path) (app : Application) :
    Script Event Machine (Application × Except Error Unit) := do
  Script.tell .loadSettings
  let settings ← Script.observe app.loadSettings
  let app := { app with settings := some settings }
  Script.tell .loadProfile
  match ← Script.observe fun machine => Profile.load machine.files path with
  | .error error => return (app, .error error)
  | .ok profile =>
      Script.tell .createRuntime
      let found ← Script.observe fun machine =>
        discover machine.files profile.plugins profile.pluginDir path
      match found with
      | .error error => return (app, .error error)
      | .ok entries =>
          let plugins ← loadPlugins entries.length 0 entries
          let app := { app with plugins }
          Script.tell .loadRecords
          let records ← Script.observe fun machine => app.loadRecords machine profile
          let app := { app with records }
          let app := { app with profile := some profile }
          Script.tell .loaded
          return (app, .ok ())

end Application

end SessionHost.Engine
