import SessionHost.Protocol.Event
import SessionHost.Protocol.Violation

/-!
The order in which events may come: settings, profile, runtime, a burst of any number of plugins
that counts from zero with a fixed size, records, loaded.
-/

namespace SessionHost.Protocol

/-- The burst after one more plugin. The size is checked first, then that the index lies below
it, then that it is the next one. -/
def Burst.accept (burst : Burst) (load : PluginLoad) : Except Violation Burst :=
  if load.count ≠ burst.count then .error (.pluginCountChanged burst.count load.count)
  else if load.count ≤ load.index then .error (.pluginIndexOutOfRange load.index load.count)
  else if load.index ≠ burst.loaded then .error (.pluginIndex burst.loaded load.index)
  else .ok { burst with loaded := burst.loaded + 1 }

/-- The burst that starts with a plugin, whose size it takes. -/
def Burst.begin (first : PluginLoad) : Except Violation Burst :=
  Burst.accept ⟨0, first.count⟩ first

namespace Stage

/-- The stage after one more event, or why the event may not come here. -/
def advance : Stage → Event → Except Violation Stage
  | idle, .loadSettings => .ok loadingSettings
  | loadingSettings, .loadProfile => .ok loadingProfile
  | loadingProfile, .createRuntime => .ok creatingRuntime
  | creatingRuntime, .loadPlugin load => (Burst.begin load).map loadingPlugins
  | creatingRuntime, .loadRecords => .ok loadingRecords
  | loadingPlugins burst, .loadPlugin load => (burst.accept load).map loadingPlugins
  | loadingPlugins burst, .loadRecords =>
      if burst.isComplete then .ok loadingRecords
      else .error (.pluginBurstIncomplete burst.loaded burst.count)
  | loadingRecords, .loaded => .ok loaded
  | loaded, event => .error (.afterLoaded event.phase)
  | stage, event => .error (.unexpectedPhase stage event.phase)

/-- Refused events leave the stage as it was. -/
def settle (stage : Stage) (event : Event) : Stage :=
  match stage.advance event with
  | .ok next => next
  | .error _ => stage

end Stage

/-- What is known of a burst before and after each load: none until one has begun. -/
def Burst.offer (burst : Option Burst) (load : PluginLoad) : Except Violation Burst :=
  match burst with
  | none => Burst.begin load
  | some burst => burst.accept load

end SessionHost.Protocol
