import SessionHost.Protocol.Event
import SessionHost.Protocol.Violation

/-!
Notifications as a runtime sends them, and the events they stand for.

`decode` reads a notification and says what is wrong with one that cannot be read. `ofEvent`
writes the notification of an event.
-/

namespace SessionHost.Protocol

/-- The description of a plugin as it crosses the boundary. `name` is the memory behind the name
pointer, or `none` for a null pointer; of it, the first `length` bytes are meant. -/
structure PluginPayload where
  name : Option Bytes
  length : UInt64
  index : UInt64
  count : UInt64
deriving DecidableEq, Repr

/-- A status code with its payload, `none` for a null pointer. -/
structure Notification where
  code : UInt32
  payload : Option PluginPayload
deriving DecidableEq, Repr

/-- The greatest length that a run of bytes in memory can have. -/
def longestRun : Nat := UInt64.size / 2 - 1

/-- The plugin that a payload describes. An empty name needs no memory behind it. -/
def PluginPayload.decode (payload : PluginPayload) : Except Violation PluginLoad :=
  if payload.length = 0 then .ok ⟨[], payload.index, payload.count⟩
  else
    match payload.name with
    | none => .error (.nullPluginName payload.length)
    | some memory =>
        if longestRun < payload.length.toNat then .error (.pluginNameTooLong payload.length)
        else .ok ⟨memory.take payload.length.toNat, payload.index, payload.count⟩

namespace Notification

/-- The event that a notification stands for. Only a plugin's payload is looked at. -/
def decode (notification : Notification) : Except Violation Event :=
  match Phase.ofCode? notification.code with
  | none => .error (.unknownStatus notification.code)
  | some .loadSettings => .ok .loadSettings
  | some .loadProfile => .ok .loadProfile
  | some .createRuntime => .ok .createRuntime
  | some .loadPlugin =>
      match notification.payload with
      | none => .error .missingPayload
      | some payload => payload.decode.map .loadPlugin
  | some .loadRecords => .ok .loadRecords
  | some .loaded => .ok .loaded

/-- The notification of an event: its code, and for a plugin its description. -/
def ofEvent (event : Event) : Notification where
  code := event.phase.code
  payload := event.plugin?.map fun load =>
    ⟨some load.nameBytes, load.nameBytes.length.toUInt64, load.index, load.count⟩

end Notification

end SessionHost.Protocol
