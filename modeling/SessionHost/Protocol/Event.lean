import SessionHost.Protocol.Phase
import SessionHost.Text.Utf8

/-!
What a host is told while a session opens.
-/

namespace SessionHost.Protocol

open Text (lossy)

/-- One plugin of a burst: its name as sent, its place from zero, and the size of the burst. -/
structure PluginLoad where
  nameBytes : Bytes
  index : UInt64
  count : UInt64
deriving DecidableEq, Repr

namespace PluginLoad

/-- The name as text. -/
def name (load : PluginLoad) : String := lossy load.nameBytes

/-- The place from one. The greatest index has no successor and stands for its own place. -/
def position (load : PluginLoad) : UInt64 :=
  if load.index.toNat + 1 < UInt64.size then load.index + 1 else load.index

/-- Whether the burst ends with this plugin. -/
def isLast (load : PluginLoad) : Bool := load.position = load.count

/-- Name, place and size as shown to a reader. -/
def describe (load : PluginLoad) : String :=
  load.name ++ " (" ++ toString load.position.toNat ++ "/" ++ toString load.count.toNat ++ ")"

end PluginLoad

/-- One accepted step of an opening session. -/
inductive Event where
  | loadSettings
  | loadProfile
  | createRuntime
  | loadPlugin (load : PluginLoad)
  | loadRecords
  | loaded
deriving DecidableEq, Repr

namespace Event

def phase : Event → Phase
  | loadSettings => .loadSettings
  | loadProfile => .loadProfile
  | createRuntime => .createRuntime
  | loadPlugin _ => .loadPlugin
  | loadRecords => .loadRecords
  | loaded => .loaded

/-- The plugin that the event is about, if it is about one. -/
def plugin? : Event → Option PluginLoad
  | loadPlugin load => some load
  | _ => none

/-- The event as a message names it. -/
def describe : Event → String
  | loadPlugin load => Phase.loadPlugin.name ++ " " ++ load.describe
  | event => event.phase.name

/-- The event as a line for someone who waits. -/
def announcement : Event → String
  | loadSettings => "Loading settings"
  | loadProfile => "Loading profile"
  | createRuntime => "Creating runtime"
  | loadPlugin load => "Loading plugin " ++ load.describe
  | loadRecords => "Loading records"
  | loaded => "Session loaded"

end Event

end SessionHost.Protocol
