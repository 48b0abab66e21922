import SessionHost.Config.Location
import SessionHost.Console.Style

/-!
The console: what the program prints, and the log file in which it keeps a record.

Every message goes to the log file; verbosity and the quiet setting decide only which of them are
printed. `Call` lists what can be asked of the console and `perform` does it.
-/

namespace SessionHost

/-- The state of the console. `out` and `err` are the lines printed so far. -/
structure Console where
  machine : Machine
  /-- The time that log lines are stamped with. -/
  clock : String
  color : Bool
  verbosity : UInt8
  quiet : Bool
  logFile : Option Path
  spinner : Bool
  progressBar : Bool
  out : List String
  err : List String

namespace Console

/-- A console that was never set up. -/
def fresh (machine : Machine) (clock : String) (color : Bool) : Console :=
  { machine, clock, color, verbosity := 0, quiet := false, logFile := none, spinner := false,
    progressBar := false, out := [], err := [] }

/-- Something that can be asked of the console. -/
inductive Call where
  | info (text : String)
  | debug (text : String)
  | warn (text : String)
  | error (text : String)
  | success (text : String)
  | spinnerStart
  | spinnerMessage
  | spinnerSuccess (text : String)
  | spinnerError (text : String)
  | spinnerStop
  | progressStart (total : UInt64) (text : String)
  | progressUpdate (position : UInt64) (text : String)
  | progressFinish
  | showLogPath
deriving DecidableEq, Repr

/-! ### Printing -/

/-- Prints a line for the user of the program's result. -/
def print (line : String) (console : Console) : Console :=
  { console with out := console.out ++ [line] }

/-- Prints a line for the one who watches. -/
def report (line : String) (console : Console) : Console :=
  { console with err := console.err ++ [line] }

/-- A text in a style, if the console has colours. -/
def paint (console : Console) (style : Style) (text : String) : String :=
  style.paint console.color text

/-- Whether messages are printed that only matter to the curious. -/
def isVerbose (console : Console) : Bool := 1 ≤ console.verbosity && !console.quiet

/-- Whether spinners and progress bars are shown. -/
def isAnimated (console : Console) : Bool := console.verbosity = 0 && !console.quiet

/-! ### The log file -/

/-- A line of the log file. -/
def logLine (clock message : String) : Bytes :=
  Text.encode ("[" ++ clock ++ "] " ++ message ++ "\n")

/-- Adds a line to the log file. Nothing happens without one, or if it cannot be written. -/
def log (message : String) (console : Console) : Console :=
  match console.logFile with
  | none => console
  | some path =>
      match console.machine.files.append path (logLine console.clock message) with
      | .ok files => { console with machine := { console.machine with files } }
      | .error _ => console

/-- The name of the log file in its directory. -/
def logFileName : String := "stagehand.log"

/-- Why the console could not be set up. -/
inductive SetupError where
  | noHome
  | noDirectory (cause : FileSystem.Error)
deriving DecidableEq, Repr

/-- The error in words. -/
def SetupError.message : SetupError → String
  | noHome => "Could not determine home directory"
  | noDirectory cause => "Failed to create log directory: " ++ cause.message

/-- The directory of the log file: the given one, or the program's own. -/
def logDirectory (env : Environment) : Option Path → Except SetupError Path
  | some dir => .ok dir
  | none => (Config.ownDirectory env).mapError fun _ => .noHome

/-- The files without an old log file, which stays if it cannot be removed. -/
def withoutOldLog (files : FileSystem) (path : Path) : FileSystem :=
  match files.removeFile path with
  | .ok changed => changed
  | .error _ => files

/-- Sets up what is printed, and starts a new log file in a directory. If that fails the log file
stays the one it was. -/
def setUp (verbosity : UInt8) (quiet : Bool) (dir : Option Path) (console : Console) :
    Console × Except SetupError Path :=
  let console := { console with verbosity, quiet }
  match logDirectory console.machine.environment dir with
  | .error error => (console, .error error)
  | .ok dir =>
      match console.machine.files.makeDirectories dir with
      | (files, .error cause) =>
          ({ console with machine := { console.machine with files } }, .error (.noDirectory cause))
      | (files, .ok ()) =>
          let path := dir.child logFileName
          let files := withoutOldLog files path
          ({ console with machine := { console.machine with files }, logFile := some path },
            .ok path)

/-- How much the diagnostics of a program show that is set up like this. -/
def diagnosticLevel (console : Console) : String :=
  if console.quiet then "error"
  else if console.verbosity = 0 then "warn"
  else if console.verbosity = 1 then "debug"
  else "trace"

/-! ### Calls -/

/-- What the log file gets to read of a call. -/
def Call.logged? : Call → Option String
  | info text => some ("INFO " ++ text)
  | debug text => some ("DEBUG " ++ text)
  | warn text => some ("WARN " ++ text)
  | error text => some ("ERROR " ++ text)
  | success text => some ("SUCCESS " ++ text)
  | spinnerSuccess text => some ("SUCCESS " ++ text)
  | spinnerError text => some ("ERROR " ++ text)
  | progressStart total text =>
      some ("PROGRESS " ++ text ++ " (0/" ++ toString total.toNat ++ ")")
  | progressUpdate position text =>
      some ("PROGRESS " ++ text ++ " (" ++ toString position.toNat ++ ")")
  | _ => none

/-- The mark in front of good news. -/
def tick : String := "\u2714"

/-- The mark in front of bad news. -/
def cross : String := "\u2717"

/-- The line that a call prints, if it prints one. -/
def printed? (console : Console) : Call → Option String
  | .info text => if console.isVerbose then some text else none
  | .debug text =>
      if console.isVerbose then some (console.paint .boldBlue "DEBUG:" ++ " " ++ text) else none
  | .warn text =>
      if console.quiet then none else some (console.paint .boldYellow "warning:" ++ " " ++ text)
  | .error text => some (console.paint .boldRed "Error:" ++ " " ++ text)
  | .success text =>
      if console.quiet then none else some (console.paint .boldGreen tick ++ " " ++ text)
  | .spinnerSuccess text =>
      if console.quiet then none else some (console.paint .boldGreen tick ++ " " ++ text)
  | .spinnerError text => some ("  " ++ console.paint .boldRed cross ++ " " ++ text)
  | .showLogPath =>
      some (match console.logFile with
        | some path => "Log file: " ++ path.display
        | none => "Log file location not available")
  | _ => none

/-- Whether a spinner turns after a call. -/
def spinnerAfter (console : Console) : Call → Bool
  | .spinnerStart => console.spinner || console.isAnimated
  | .spinnerSuccess _ => false
  | .spinnerError _ => false
  | .spinnerStop => false
  | _ => console.spinner

/-- Whether a progress bar is shown after a call. -/
def progressBarAfter (console : Console) : Call → Bool
  | .progressStart _ _ => console.progressBar || console.isAnimated
  | .progressFinish => false
  | _ => console.progressBar

/-- Adds the line of a call to the log file. -/
def logCall (call : Call) (console : Console) : Console :=
  match call.logged? with
  | some message => console.log message
  | none => console

/-- Prints the line of a call. -/
def printCall (call : Call) (console : Console) : Console :=
  match console.printed? call with
  | some line => console.report line
  | none => console

/-- Does what a call asks. -/
def perform (console : Console) (call : Call) : Console :=
  let console :=
    { console with
      spinner := console.spinnerAfter call
      progressBar := console.progressBarAfter call }
  (console.logCall call).printCall call

/-- Does what calls ask, in order. -/
def performAll (calls : List Call) (console : Console) : Console :=
  calls.foldl perform console

end Console

end SessionHost
