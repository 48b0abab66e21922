import SessionHost.Engine.Profile

/-!
Plugins: the manifests in a profile's plugin directory.

A plugin is a file whose name has the extension `toml`. `discover` lists the plugins of a profile,
and `Manifest.load` reads one.
-/

namespace SessionHost.Engine

/-- What a manifest says about its plugin. -/
structure Manifest where
  version : Option String
  description : Option String
deriving DecidableEq, Repr

namespace Manifest

/-- The manifest in a document. -/
def ofTable? (table : Toml.Table) : Option Manifest := do
  return {
    version := ← table.optionalText? "version"
    description := ← table.optionalText? "description" }

/-- The manifest that a text spells. -/
def parse? (text : String) : Option Manifest := do
  ofTable? (← Toml.parse? text)

/-- Loads a manifest from a file. -/
def load (files : FileSystem) (path : Path) : Except Error Manifest := do
  match parse? (← readTextFile files path) with
  | some manifest => .ok manifest
  | none => .error (.malformedToml path)

/-- The extension of a manifest's file name. -/
def extension : String := "toml"

end Manifest

/-- A plugin that was found: its name and the path of its manifest. -/
structure PluginEntry where
  name : String
  path : Path
deriving DecidableEq, Repr

/-- A plugin of a loaded profile, with its manifest if that could be read. -/
structure Plugin where
  name : String
  manifest : Option Manifest
deriving DecidableEq, Repr

namespace PluginEntry

/-- The plugin of a name in a plugin directory. -/
def named (root : Path) (name : String) : PluginEntry :=
  ⟨name, root.child (name ++ "." ++ Manifest.extension)⟩

/-- The plugin whose manifest has a file name in a plugin directory, if the name is that of a
manifest. -/
def ofFileName? (root : Path) (fileName : Bytes) : Option PluginEntry :=
  if Path.extension? fileName = some (Text.encode Manifest.extension) then
    some ⟨Text.lossy (Path.stem fileName), root.join ⟨fileName⟩⟩
  else none

/-- Whether one plugin may stand before another in a scan. -/
def precedes (a b : PluginEntry) : Bool := !decide (b.name < a.name)

/-- The plugins among the file names of a plugin directory, in the order of their names. -/
def scan (root : Path) (fileNames : List Bytes) : List PluginEntry :=
  (fileNames.filterMap (ofFileName? root)).mergeSort precedes

end PluginEntry

/-- The plugins of a profile at a path: those it lists that have a manifest, or all that its plugin
directory has if it lists none. -/
def discover (files : FileSystem) (plugins : List String) (pluginDir : String) (path : Path) :
    Except Error (List PluginEntry) :=
  let root := Profile.pluginRoot pluginDir path
  if plugins.isEmpty then
    match files.list root with
    | .ok fileNames => .ok (PluginEntry.scan root fileNames)
    | .error cause => .error (.read root cause)
  else .ok ((plugins.map (PluginEntry.named root)).filter fun entry => files.isFile entry.path)

end SessionHost.Engine
