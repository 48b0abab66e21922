import SessionHost.FileSystem.Basic
import SessionHost.FileSystem.Error
import SessionHost.Path
import SessionHost.Text.Terminated

/-!
From paths to places in the tree.

A path is walked segment by segment, from the root if it is absolute and else from the working
directory. Each segment, an idle one included, needs a directory to stand in.
-/

namespace SessionHost.FileSystem

/-- The longest name that a directory can hold, in bytes. -/
def longestName : Nat := 255

/-- A path of this many bytes or more is refused. -/
def pathLimit : Nat := 4096

/-- Refuses a place that is no directory. -/
def requireDirectory (fs : FileSystem) (place : Location) : Except Error Unit :=
  match fs.node? place with
  | none => .error .notFound
  | some (.file _) => .error .notADirectory
  | some .directory => .ok ()

/-- One segment further: a dot stays, two dots go up, and a name goes down, whether or not the
place below exists. -/
def enter (fs : FileSystem) (here : Location) (segment : Bytes) : Except Error Location := do
  fs.requireDirectory here
  if Path.isIdle segment then .ok here
  else if segment = [Path.dot, Path.dot] then .ok here.dropLast
  else if longestName < segment.length then .error .nameTooLong
  else .ok (here ++ [segment])

/-- Follows segments from a place. -/
def walk (fs : FileSystem) (here : Location) (segments : List Bytes) : Except Error Location :=
  segments.foldlM fs.enter here

/-- Where a path starts. -/
def origin (fs : FileSystem) (path : Path) : Location :=
  if path.isAbsolute then [] else fs.cwd

/-- Refuses a path that no walk may begin with. -/
def admissible (path : Path) : Except Error Unit :=
  if Text.hasNul path.bytes then .error .nulInPath
  else if path.bytes.isEmpty then .error .notFound
  else if pathLimit ≤ path.bytes.length then .error .nameTooLong
  else .ok ()

/-- The place that a path leads to. Nothing need be there, but what it stands in must exist. -/
def locate (fs : FileSystem) (path : Path) : Except Error Location := do
  admissible path
  fs.walk (fs.origin path) path.segments

/-- The place that a path leads to and the node that stands there. -/
def find (fs : FileSystem) (path : Path) : Except Error (Location × Node) := do
  let place ← fs.locate path
  match fs.node? place with
  | some node => .ok (place, node)
  | none => .error .notFound

/-- Something stands where the path leads. -/
def holds (fs : FileSystem) (path : Path) : Bool :=
  match fs.find path with
  | .ok _ => true
  | .error _ => false

/-- A file stands where the path leads. -/
def isFile (fs : FileSystem) (path : Path) : Bool :=
  match fs.find path with
  | .ok (_, .file _) => true
  | _ => false

/-- A directory stands where the path leads. -/
def isDirectory (fs : FileSystem) (path : Path) : Bool :=
  match fs.find path with
  | .ok (_, .directory) => true
  | _ => false

/-! ### Reading -/

/-- The content of a file. -/
def read (fs : FileSystem) (path : Path) : Except Error Bytes := do
  match ← fs.find path with
  | (_, .file content) => .ok content
  | (_, .directory) => .error .isADirectory

/-- The content of a file as text. -/
def readText (fs : FileSystem) (path : Path) : Except Error String := do
  match Text.decode? (← fs.read path) with
  | some text => .ok text
  | none => .error .notText

/-- The names in a directory, each once, in no particular order. -/
def list (fs : FileSystem) (path : Path) : Except Error (List Bytes) := do
  match ← fs.find path with
  | (_, .file _) => .error .notADirectory
  | (place, .directory) => .ok (fs.namesBelow place)

end SessionHost.FileSystem
