import SessionHost.FileSystem.Resolve

/-!
Making and removing files and directories.

A file is written anew in two steps, as it is opened empty before it is filled. If the second step
fails, then what the file held is gone.
-/

namespace SessionHost.FileSystem

/-- A path without the slashes at its end, unless it is all slashes. -/
def stripSlashes (path : Path) : Path :=
  let stripped := (path.bytes.reverse.dropWhile (· = Path.slash)).reverse
  if stripped.isEmpty then path else ⟨stripped⟩

/-- The last segment of a path that does not end in a slash. -/
def lastSegment (path : Path) : Bytes := path.segments.getLast?.getD []

/-- A last segment that cannot name something new. -/
def namesExisting (segment : Bytes) : Bool :=
  Path.isIdle segment || segment = [Path.dot, Path.dot]

/-- Makes one directory in a directory that exists. -/
def makeDirectory (fs : FileSystem) (path : Path) : Except Error FileSystem := do
  admissible path
  let stripped := stripSlashes path
  let place ← fs.walk (fs.origin path) stripped.segments
  if namesExisting (lastSegment stripped) || (fs.node? place).isSome then .error .alreadyExists
  else .ok (fs.put place .directory)

/-- Makes the first directory of a lineage, and before it those above it that are missing. What
was made stays if a later step fails. -/
def makeLineage (fs : FileSystem) : List Path → FileSystem × Except Error Unit
  | [] => (fs, .ok ())
  | path :: above =>
      if path.bytes.isEmpty then (fs, .ok ())
      else
        match fs.makeDirectory path with
        | .ok made => (made, .ok ())
        | .error .notFound =>
            match fs.makeLineage above with
            | (made, .error error) => (made, .error error)
            | (made, .ok ()) =>
                match made.makeDirectory path with
                | .ok whole => (whole, .ok ())
                | .error error =>
                    if made.isDirectory path then (made, .ok ()) else (made, .error error)
        | .error error => if fs.isDirectory path then (fs, .ok ()) else (fs, .error error)

/-- Makes a directory and all that it stands in, as far as they are missing. -/
def makeDirectories (fs : FileSystem) (path : Path) : FileSystem × Except Error Unit :=
  fs.makeLineage path.lineage

/-- The place of a file that can be opened for writing: one that holds a file, or that nothing
stands at, unless that is refused. A slash at the end asks for a directory, whatever the name before
it. -/
def writable (fs : FileSystem) (path : Path) : Except Error Location := do
  admissible path
  let stripped := stripSlashes path
  let above ← fs.walk (fs.origin path) stripped.segments.dropLast
  fs.requireDirectory above
  if stripped ≠ path || namesExisting (lastSegment stripped) then .error .isADirectory
  else
    let place ← fs.enter above (lastSegment stripped)
    match fs.node? place with
    | some .directory => .error .isADirectory
    | _ =>
        match (fs.refusals place).opening with
        | some error => .error error
        | none => .ok place

/-- The bytes of the file at a place, none if there is no file. -/
def contentAt (fs : FileSystem) (place : Location) : Bytes :=
  match fs.node? place with
  | some (.file content) => content
  | _ => []

/-- As much of a content as a file takes, and the error if that is not all. -/
def Refusals.fill (refusals : Refusals) (content : Bytes) : Bytes × Except Error Unit :=
  match refusals.filling with
  | some (room, error) =>
      if room < content.length then (content.take room, .error error) else (content, .ok ())
  | none => (content, .ok ())

/-- Gives a file new content, making the file if it is missing. The beginning of it stays in the
file if that does not take it all. -/
def write (fs : FileSystem) (path : Path) (content : Bytes) : FileSystem × Except Error Unit :=
  match fs.writable path with
  | .error error => (fs, .error error)
  | .ok place =>
      let (filled, outcome) := (fs.refusals place).fill content
      (fs.put place (.file filled), outcome)

/-- Adds to the end of a file, making the file if it is missing. -/
def append (fs : FileSystem) (path : Path) (more : Bytes) : Except Error FileSystem := do
  let place ← fs.writable path
  return fs.put place (.file (fs.contentAt place ++ more))

/-- Removes a file, or a directory with all in it. -/
def remove (fs : FileSystem) (path : Path) : Except Error FileSystem := do
  let (place, _) ← fs.find path
  match (fs.refusals place).removing with
  | some error => .error error
  | none => .ok (fs.erase place)

/-- Removes a file. -/
def removeFile (fs : FileSystem) (path : Path) : Except Error FileSystem :=
  if fs.isDirectory path then .error .isADirectory else fs.remove path

/-- Writes a file after making the directories it stands in. Directories that were made stay if a
later step fails. -/
def provide (fs : FileSystem) (path : Path) (content : Bytes) : FileSystem × Except Error Unit :=
  match path.parent? with
  | none => fs.write path content
  | some parent =>
      match fs.makeDirectories parent with
      | (made, .error error) => (made, .error error)
      | (made, .ok ()) => made.write path content

end SessionHost.FileSystem
