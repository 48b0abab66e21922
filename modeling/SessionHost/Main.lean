import SessionHost.Command.Footprint
import SessionHost.Console.Clock
import Std.Time.DateTime.Timestamp

/-!
The program as a command: gathers the part of the machine that a run looks at, runs it, and puts
back what it changed.

File names are taken to be text, nothing is taken to be refused, and the clock is read once.
-/

namespace SessionHost

/-- The value of an environment variable. -/
def environmentValue (name : String) : IO (Option Bytes) := do
  return (← IO.getEnv name).map Text.encode

/-- The path under which the system knows a place. -/
def systemPath (place : Location) : String :=
  "/" ++ "/".intercalate (place.map Text.lossy)

/-- Takes what stands at a place of the system into the tree. -/
def gather (files : FileSystem) (place : Location) : IO FileSystem := do
  if place = [] then return files
  let file := (← IO.currentDir) / systemPath place
  if ← file.isDir then return files.put place .directory
  try
    let content ← IO.FS.readBinFile (systemPath place)
    return files.put place (.file content.data.toList)
  catch _ => return files

/-- Takes a path and the places it passes through into the tree. -/
def gatherPath (files : FileSystem) (path : Path) : IO FileSystem :=
  (Command.placesOf files.cwd path).foldlM gather files

/-- Takes what a run looks at into the tree. -/
def gatherNeed (files : FileSystem) : Command.Need → IO FileSystem
  | .node path => gatherPath files path
  | .listing path => do
      let files ← gatherPath files path
      match files.find path with
      | .ok (place, .directory) =>
          let entries ← ((← IO.currentDir) / systemPath place).readDir
          entries.toList.foldlM
            (fun files entry => gather files (place ++ [Text.encode entry.fileName])) files
      | _ => return files

/-- Gathers until a run would look at nothing new, in at most so many rounds. -/
def gatherAll (task : Command.Task) : Nat → List Command.Need → Machine → IO Machine
  | 0, _, machine => return machine
  | rounds + 1, known, machine => do
      let fresh := (Command.needs task machine).filter (!known.contains ·)
      if fresh.isEmpty then return machine
      let files ← fresh.foldlM gatherNeed machine.files
      gatherAll task rounds (known ++ fresh) { machine with files }

/-- Puts a changed place of the tree back into the system. -/
def putBack (before : FileSystem) (entry : Location × Node) : IO Unit := do
  if before.node? entry.1 = some entry.2 then return
  match entry.2 with
  | .directory => IO.FS.createDirAll (systemPath entry.1)
  | .file content => IO.FS.writeBinFile (systemPath entry.1) ⟨content.toArray⟩

/-- Puts all that changed back into the system. -/
def putBackAll (before after : FileSystem) : IO Unit := do
  for (place, _) in before.nodes do
    if (after.node? place).isNone then IO.FS.removeFile (systemPath place)
  for entry in after.nodes do
    putBack before entry

/-- The working directory as a place. -/
def workingPlace : IO Location := do
  return (Path.ofText (← IO.currentDir).toString).segments.filter (!·.isEmpty)

/-- The environment, and of the files only the working directory. -/
def bareMachine : IO Machine := do
  let cwd ← workingPlace
  let files := { FileSystem.empty with cwd }
  let places := (List.range cwd.length).map fun n => cwd.take (n + 1)
  return {
    environment := {
      home := ← environmentValue "HOME"
      configHome := ← environmentValue "XDG_CONFIG_HOME"
      dataHome := ← environmentValue "XDG_DATA_HOME"
      configFile := ← environmentValue "STAGEHAND_CONFIG" }
    files := places.foldl (fun files place => files.put place .directory) files }

/-- The lines that tell how the program is used. -/
def usage : List String :=
  ["Usage: stagehand [-q] [-v]... PROFILE",
    "       stagehand config [show | get KEY | set KEY VALUE | path [NEW_PATH]]"]

/-- Carries out a task, and returns the exit code. -/
def carryOut (options : Command.Options) (task : Command.Task) : IO UInt32 := do
  let machine ← gatherAll task 8 [] (← bareMachine)
  let now := (← Std.Time.Timestamp.now).toSecondsSinceUnixEpoch.val.toNat
  let color := (← IO.getEnv "NO_COLOR").isNone && (← (← IO.getStderr).isTty)
  let leave (console : Console) (code : UInt32) : IO UInt32 := do
    console.out.forM IO.println
    console.err.forM IO.eprintln
    putBackAll machine.files console.machine.files
    return code
  match Command.runTask options task (Console.fresh machine (Console.stamp now) color) with
  | .exit code console => leave console (code.toInt % 256).toNat.toUInt32
  | .panic text console => leave (console.report text) 101
  | _ => return 2

end SessionHost

def main (args : List String) : IO UInt32 := do
  match SessionHost.Command.readArguments (args.map SessionHost.Text.encode) with
  | .usageError =>
      IO.eprintln "error: the arguments cannot be understood"
      SessionHost.usage.forM IO.eprintln
      return 2
  | .help =>
      SessionHost.usage.forM IO.println
      return 0
  | .version =>
      IO.println SessionHost.Command.versionLine
      return 0
  | .run options task => SessionHost.carryOut options task
