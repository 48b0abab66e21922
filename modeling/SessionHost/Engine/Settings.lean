import SessionHost.Engine.Error
import SessionHost.Json.Reader

/-!
Settings of an application.
-/

namespace SessionHost.Engine

/-- The settings: a language. -/
structure Settings where
  lang : String := "en"
deriving DecidableEq, Repr

namespace Settings

/-- The name of the file that holds the settings. -/
def fileName : String := "settings.json"

/-- A member of a settings object: the language, once at most. -/
def member (key : String) (found : Option String) : Json.Reader (Option String) :=
  if key = "lang" then fun input =>
    if found.isSome then none
    else (Json.readText input).map fun r => (some r.1, r.2)
  else Json.ignore found

/-- An item of settings given as an array. -/
def item (index : Nat) (found : Option String) : Json.Reader (Option String) :=
  if index = 0 then member "lang" found else fun _ => none

/-- The settings that a file's content spells. -/
def parse? (content : Bytes) : Option Settings :=
  (Json.document? (Json.readRecord member item none) content).map fun found =>
    match found with
    | some lang => ⟨lang⟩
    | none => {}

/-- Loads the settings from the directory they are kept in. -/
def load (files : FileSystem) (dir : Path) : Except Error Settings := do
  let path := dir.child fileName
  match parse? (← readFile files path) with
  | some settings => .ok settings
  | none => .error (.malformedJson path)

end Settings

end SessionHost.Engine
