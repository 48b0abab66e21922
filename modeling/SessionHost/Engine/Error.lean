import SessionHost.Config.Basic
import SessionHost.FileSystem.Resolve

/-!
What keeps the engine from loading something.
-/

namespace SessionHost.Engine

inductive Error where
  | read (path : Path) (cause : FileSystem.Error)
  | malformedJson (path : Path)
  | malformedToml (path : Path)
  | config (error : Config.Error)
deriving DecidableEq, Repr

/-- The error in words, without the details of a malformed file. -/
def Error.summary : Error → String
  | read path cause => "Failed to read " ++ path.display ++ ": " ++ cause.message
  | malformedJson path => "Invalid JSON in " ++ path.display ++ ": "
  | malformedToml path => "Invalid TOML in " ++ path.display ++ ": "
  | config error => "Configuration error: " ++ error.summary

/-- Reads a file, and says which one it was if that fails. -/
def readFile (files : FileSystem) (path : Path) : Except Error Bytes :=
  (files.read path).mapError (.read path)

/-- Reads a file of text, and says which one it was if that fails. -/
def readTextFile (files : FileSystem) (path : Path) : Except Error String :=
  (files.readText path).mapError (.read path)

end SessionHost.Engine
