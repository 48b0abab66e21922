import SessionHost.Session.Boundary
import SessionHost.Text.Terminated

/-!
Runtimes that follow a plan, whatever is in their surroundings.
-/

namespace SessionHost.Session

open Protocol Text

/-- What a runtime saw of its host. -/
inductive Sighting where
  /-- `start` was called with the application id. -/
  | start (appId : Bytes)
  /-- `openSession` was called with a handle and a path. -/
  | openSession (handle : Handle) (path : Bytes)
  /-- A call of the init callback returned. -/
  | init (value : Int32)
deriving DecidableEq, Repr

/-- The handle that a rehearsed runtime hands out. -/
def rehearsedHandle : Handle := ⟨1⟩

/-- The state of a rehearsed runtime: what it saw, and what it sends when a session is opened. -/
structure Rehearsal where
  seen : List Sighting
  plan : List StatusCall

/-- Follows a startup, and sends the planned notifications at each open. -/
def Runtime.rehearsed {ω : Type} (startup : Startup) : Runtime ω Rehearsal where
  start _ appId state :=
    (startup, { state with seen := state.seen ++ [.start (untilNul appId)] })
  initReturned value state := { state with seen := state.seen ++ [.init value] }
  openSession handle path state :=
    .sendAll state.plan { state with seen := state.seen ++ [.openSession handle (untilNul path)] }

end SessionHost.Session
