import SessionHost.Command.Error
import SessionHost.Console.Announcer
import SessionHost.Engine.EntryPoints
import SessionHost.Session.Launch

/-!
The command that opens a profile.
-/

namespace SessionHost.Command

open Session

variable {ρ : Type}

/-- The message that a session was loaded, with its plugins. -/
def loadedMessage (console : Console) (summary : Summary) : String :=
  match summary.plugins.length with
  | 0 => "Session loaded"
  | n =>
      "Session loaded with " ++ console.paint .bold (toString n) ++ " plugin"
        ++ (if n = 1 then "" else "s") ++ ": " ++ ", ".intercalate summary.plugins

/-- What the host does with a session: it opens the profile and tells how that went. -/
def entry (profile : Path) : Entry Console ρ := fun opener state =>
  let ((console, inside), outcome) := opener profile.bytes Console.sink state
  match outcome with
  | .ok summary =>
      ((console.perform (.spinnerSuccess (loadedMessage console summary)), inside), .returned 0)
  | .failed error =>
      ((console.performAll [.progressFinish, .spinnerError error.message], inside), .returned 1)
  | .panicked text => ((console, inside), .panicked text)

/-- Opens a profile with a runtime. A panic leaves at once; otherwise the spinner is stopped. -/
def openWith (runtime : Runtime Machine ρ) (profile : Path) (appId : String)
    (state : Console × ρ) : (Console × ρ) × Outcome Error Int32 :=
  let (console, inside) := state
  if console.machine.files.isFile profile then
    let console := console.performAll [.debug ("Application id: " ++ appId), .spinnerStart]
    let ((console, inside), _, outcome) :=
      (Bridge.fresh appId).start Console.machine runtime (entry profile) (console, inside)
    match outcome with
    | .panicked text => ((console, inside), .panicked text)
    | outcome => ((console.perform .spinnerStop, inside), outcome.mapError .session)
  else (state, .failed (.profileNotFound profile))

/-- Opens a profile with the engine. -/
def openProfile (profile : Path) (appId : String) (console : Console) :
    Console × Outcome Error Int32 :=
  let (state, outcome) := openWith Engine.runtime profile appId (console, none)
  (state.1, outcome)

end SessionHost.Command
