import SessionHost.FileSystem.Change

/-!
What surrounds the program: its environment variables and its files.
-/

namespace SessionHost

/-- The environment variables that matter, each with its value if it is set. -/
structure Environment where
  home : Option Bytes
  configHome : Option Bytes
  dataHome : Option Bytes
  configFile : Option Bytes
deriving DecidableEq, Repr

namespace Environment

/-- The home directory. An empty value counts as none. -/
def homeDirectory? (env : Environment) : Option Path :=
  match env.home with
  | some bytes => if bytes.isEmpty then none else some ⟨bytes⟩
  | none => none

/-- The directory that a variable names if its path is absolute, and else one below the home
directory. -/
def directory? (env : Environment) (named : Option Bytes) (below : String) : Option Path :=
  match named.map Path.mk with
  | some path =>
      if path.isAbsolute then some path else env.homeDirectory?.map (·.child below)
  | none => env.homeDirectory?.map (·.child below)

/-- Where applications keep their settings. -/
def configDirectory? (env : Environment) : Option Path :=
  env.directory? env.configHome ".config"

/-- Where applications keep their data. -/
def dataDirectory? (env : Environment) : Option Path :=
  env.directory? env.dataHome ".local/share"

end Environment

/-- The environment and the files at one moment. -/
structure Machine where
  environment : Environment
  files : FileSystem

end SessionHost
