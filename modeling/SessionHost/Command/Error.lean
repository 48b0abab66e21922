import SessionHost.Config.Basic
import SessionHost.Session.Error

/-!
How a command can fail.
-/

namespace SessionHost.Command

inductive Error where
  | profileNotFound (path : Path)
  | config (error : Config.Error)
  | session (error : Session.Error)
deriving DecidableEq, Repr

namespace Error

/-- The error in words, without the details of a malformed file. -/
def summary : Error → String
  | profileNotFound path => "Profile not found: " ++ path.display
  | config error => error.summary
  | session error => error.message

/-- The error in words. -/
def message : Error → String
  | config error => error.message
  | error => error.summary

/-- The exit code that tells of the error. -/
def exitCode : Error → Int32
  | profileNotFound _ => 2
  | config (.unknownKey _) => 2
  | config _ => 1
  | session error => error.exitCode

end Error

end SessionHost.Command
