import SessionHost.Protocol.Violation

/-!
How starting a runtime or opening a session can end.
-/

namespace SessionHost.Session

open Protocol

/-- Why a runtime could not be started or a session not opened. -/
inductive Error where
  | initialization (code : Int32)
  | alreadyStarted
  | invalidArgument (reason : String)
  | protocolViolation (violation : Violation)
  | incomplete (last : Option Phase)
deriving DecidableEq, Repr

namespace Error

/-- The error in words. -/
def message : Error → String
  | initialization code =>
      "Runtime initialization failed with status " ++ toString code.toInt
  | alreadyStarted => "Session bridge was already started"
  | invalidArgument reason => "Invalid argument: " ++ reason
  | protocolViolation violation => "Runtime protocol violation: " ++ violation.message
  | incomplete last =>
      "Runtime returned before the session was loaded (last phase: "
        ++ (last.map Phase.name).getD "none" ++ ")"

/-- The exit code that tells of the error. A runtime's own status is passed on unless it is zero,
which would read as success. -/
def exitCode : Error → Int32
  | initialization code => if code = 0 then 1 else code
  | invalidArgument _ => 2
  | _ => 1

end Error

/-- How a call came back to its caller: with a value, with an error, or by a panic. -/
inductive Outcome (ε α : Type) where
  | ok (value : α)
  | failed (error : ε)
  | panicked (text : String)
deriving DecidableEq, Repr

/-- The same outcome with the error seen as another. -/
def Outcome.mapError {ε ε' α : Type} (f : ε → ε') : Outcome ε α → Outcome ε' α
  | ok value => ok value
  | failed error => failed (f error)
  | panicked text => panicked text

/-- The report of a session that was opened: its plugins in the order of loading. -/
structure Summary where
  plugins : List String
deriving DecidableEq, Repr

end SessionHost.Session
