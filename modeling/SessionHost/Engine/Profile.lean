import SessionHost.Engine.Error
import SessionHost.Toml.Document

/-!
Profiles: the TOML files that say what to open.
-/

namespace SessionHost.Engine

/-- A profile. Without plugins of its own it takes all that its plugin directory has. -/
structure Profile where
  title : String
  author : Option String
  plugins : List String
  pluginDir : String
deriving DecidableEq, Repr

namespace Profile

/-- The plugin directory of a profile that names none. -/
def defaultPluginDir : String := "plugins"

/-- The profile in a document. It needs a title. -/
def ofTable? (table : Toml.Table) : Option Profile := do
  let title ← (← table.optionalText? "title")
  let pluginDir ← table.optionalText? "plugin_dir"
  return {
    title := title
    author := ← table.optionalText? "author"
    plugins := ← table.texts? "plugins"
    pluginDir := pluginDir.getD defaultPluginDir }

/-- The profile that a text spells. -/
def parse? (text : String) : Option Profile := do
  ofTable? (← Toml.parse? text)

/-- Loads a profile from a file. -/
def load (files : FileSystem) (path : Path) : Except Error Profile := do
  match parse? (← readTextFile files path) with
  | some profile => .ok profile
  | none => .error (.malformedToml path)

/-- The plugin directory as seen from the directory that the profile stands in. -/
def pluginRoot (pluginDir : String) (path : Path) : Path :=
  (path.parent?.getD ⟨[]⟩).child pluginDir

end Profile

end SessionHost.Engine
