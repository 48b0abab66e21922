import SessionHost.Protocol.Phase

/-!
How far an opening session has come.
-/

namespace SessionHost.Protocol

/-- A burst of plugins of which the first `loaded` have been reported. -/
structure Burst where
  loaded : UInt64
  count : UInt64
deriving DecidableEq, Repr

/-- Whether every plugin of the burst has been reported. -/
def Burst.isComplete (burst : Burst) : Bool := burst.loaded = burst.count

/-- What has been reported so far. -/
inductive Stage where
  | idle
  | loadingSettings
  | loadingProfile
  | creatingRuntime
  | loadingPlugins (burst : Burst)
  | loadingRecords
  | loaded
deriving DecidableEq, Repr

namespace Stage

/-- The phase that was reported last. -/
def lastPhase? : Stage → Option Phase
  | idle => none
  | loadingSettings => some .loadSettings
  | loadingProfile => some .loadProfile
  | creatingRuntime => some .createRuntime
  | loadingPlugins _ => some .loadPlugin
  | loadingRecords => some .loadRecords
  | loaded => some .loaded

/-- Nothing may follow. -/
def isFinal (stage : Stage) : Bool := stage = loaded

/-- The stage as a message names it. -/
def describe : Stage → String
  | idle => "idle"
  | loadingSettings => "loading settings"
  | loadingProfile => "loading profile"
  | creatingRuntime => "creating runtime"
  | loadingPlugins burst =>
      "loading plugins (" ++ toString burst.loaded.toNat ++ "/" ++ toString burst.count.toNat
        ++ ")"
  | loadingRecords => "loading records"
  | loaded => "loaded"

end Stage

end SessionHost.Protocol
