import SessionHost.Protocol.Stage

/-!
The ways in which a runtime can break the protocol, each with its message.
-/

namespace SessionHost.Protocol

/-- Why a notification, or a call of the init callback, was refused. -/
inductive Violation where
  | unknownStatus (code : UInt32)
  | missingPayload
  | nullPluginName (length : UInt64)
  | pluginNameTooLong (length : UInt64)
  | nullHandle
  | unexpectedPhase (stage : Stage) (found : Phase)
  | pluginIndex (expected found : UInt64)
  | pluginCountChanged (expected found : UInt64)
  | pluginIndexOutOfRange (index count : UInt64)
  | pluginBurstIncomplete (loaded count : UInt64)
  | afterLoaded (found : Phase)
  | duplicateInit
deriving DecidableEq, Repr

/-- The violation in words. -/
def Violation.message : Violation → String
  | unknownStatus code => "unknown status discriminant " ++ toString code.toNat
  | missingPayload => "LoadPlugin notification without payload"
  | nullPluginName length =>
      "LoadPlugin payload has a null name with length " ++ toString length.toNat
  | pluginNameTooLong length =>
      "LoadPlugin payload name length " ++ toString length.toNat
        ++ " exceeds the addressable range"
  | nullHandle => "init callback received a null session handle"
  | unexpectedPhase stage found => "unexpected " ++ found.name ++ " while " ++ stage.describe
  | pluginIndex expected found =>
      "plugin index " ++ toString found.toNat ++ " out of order (expected "
        ++ toString expected.toNat ++ ")"
  | pluginCountChanged expected found =>
      "plugin count changed from " ++ toString expected.toNat ++ " to " ++ toString found.toNat
        ++ " within one burst"
  | pluginIndexOutOfRange index count =>
      "plugin index " ++ toString index.toNat ++ " is not below plugin count "
        ++ toString count.toNat
  | pluginBurstIncomplete loaded count =>
      "plugin burst ended after " ++ toString loaded.toNat ++ " of " ++ toString count.toNat
        ++ " plugins"
  | afterLoaded found => found.name ++ " received after Loaded"
  | duplicateInit => "init callback invoked more than once"

end SessionHost.Protocol
