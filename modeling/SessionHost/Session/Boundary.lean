import SessionHost.Protocol.Notification
import SessionHost.Session.Script

/-!
The boundary between a host and a runtime.

A runtime has two entry points. `start` takes the application id and calls the host's init callback
with a session handle; the host opens sessions while that call lasts. `openSession` takes a
handle and the path of a profile and reports its progress through the status callback. Ids and
paths cross as buffers that end at a NUL.
-/

namespace SessionHost.Session

open Protocol

/-- The token by which a runtime knows a session. -/
structure Handle where
  id : Nat
deriving DecidableEq, Repr

/-- One call of the init callback: the handle, `none` if null, and whether the call brings back
what the host registered with the callback. -/
structure InitCall where
  handle : Option Handle
  registered : Bool
deriving DecidableEq, Repr

/-- One call of the status callback, and whether it brings back what the host registered. -/
structure StatusCall where
  notification : Notification
  registered : Bool
deriving DecidableEq, Repr

/-- The status that `start` returns: one of the values that its calls of the init callback
returned, zero if there was none, or a number of its own. -/
inductive ReturnRule where
  | first
  | last
  | always (status : Int32)
deriving DecidableEq, Repr

/-- The status for the values that the init callback returned. -/
def ReturnRule.status (rule : ReturnRule) (values : List Int32) : Int32 :=
  match rule with
  | first => values.head?.getD 0
  | last => values.getLast?.getD 0
  | always status => status

/-- What `start` does: its calls of the init callback and then the status it returns. -/
structure Startup where
  calls : List InitCall
  returns : ReturnRule
deriving DecidableEq, Repr

/-- A runtime with state `ρ` that can look at surroundings `ω`. -/
structure Runtime (ω ρ : Type) where
  /-- Starts for the application whose id is in the buffer. -/
  start : ω → Bytes → ρ → Startup × ρ
  /-- Learns what a call of the init callback returned. -/
  initReturned : Int32 → ρ → ρ
  /-- Opens a session for the profile whose path is in the buffer. -/
  openSession : Handle → Bytes → ρ → Script StatusCall ω ρ

end SessionHost.Session
