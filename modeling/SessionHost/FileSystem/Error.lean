/-!
Why a file could not be reached, read or written.

The last three are never found out from the tree: `FileSystem.refusals` says where they occur.
-/

namespace SessionHost.FileSystem

inductive Error where
  | notFound
  | alreadyExists
  | notADirectory
  | isADirectory
  | nameTooLong
  | nulInPath
  | notText
  | permissionDenied
  | noSpace
  | inputOutput
deriving DecidableEq, Repr

/-- The error in the words of the system. -/
def Error.message : Error → String
  | notFound => "No such file or directory (os error 2)"
  | alreadyExists => "File exists (os error 17)"
  | notADirectory => "Not a directory (os error 20)"
  | isADirectory => "Is a directory (os error 21)"
  | nameTooLong => "File name too long (os error 36)"
  | nulInPath => "file name contained an unexpected NUL byte"
  | notText => "stream did not contain valid UTF-8"
  | permissionDenied => "Permission denied (os error 13)"
  | noSpace => "No space left on device (os error 28)"
  | inputOutput => "Input/output error (os error 5)"

end SessionHost.FileSystem
