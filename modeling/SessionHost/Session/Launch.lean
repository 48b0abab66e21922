import SessionHost.Session.Opening

/-!
Starting a runtime and running the host's entry inside it.

A bridge reaches its runtime at most once. The entry runs in the first init call that carries what
the host registered, if that call has a handle; every other call is turned away.
-/

namespace SessionHost.Session

open Text Protocol

variable {ω ρ σ : Type}

/-- Opens a session at a path with a sink, on the states of host and runtime. -/
abbrev Opener (σ ρ : Type) := Bytes → Sink σ → σ × ρ → (σ × ρ) × Outcome Error Summary

/-- How an entry ended. -/
inductive Ending where
  | returned (code : Int32)
  | panicked (text : String)
deriving DecidableEq, Repr

/-- What a host does with a session, given the means to open it. -/
abbrev Entry (σ ρ : Type) := Opener σ ρ → σ × ρ → (σ × ρ) × Ending

/-- What an init call returns to the runtime if it did not run the entry to its end. -/
def initRefused : Int32 := -1

/-- The start of a runtime under way: the states of both sides, how many init calls counted, what
went wrong, and the values returned so far. -/
structure Launch (σ ρ : Type) where
  state : σ × ρ
  calls : Nat
  violation : Option Violation
  panic : Option String
  values : List Int32

namespace Launch

/-- No init call yet. -/
def fresh (state : σ × ρ) : Launch σ ρ := ⟨state, 0, none, none, []⟩

/-- The call returns `value` to the runtime. -/
def answer (runtime : Runtime ω ρ) (value : Int32) (launch : Launch σ ρ) : Launch σ ρ :=
  { launch with
    state := (launch.state.1, runtime.initReturned value launch.state.2)
    values := launch.values ++ [value] }

/-- Runs the entry with a handle. -/
def enter (view : σ → ω) (runtime : Runtime ω ρ) (entry : Entry σ ρ) (handle : Handle)
    (launch : Launch σ ρ) : Launch σ ρ :=
  let result := entry (openSession view runtime handle) launch.state
  match result.2 with
  | .returned code => answer runtime code { launch with state := result.1 }
  | .panicked text =>
      answer runtime initRefused { launch with state := result.1, panic := some text }

/-- One init call. A call without what the host registered does not count. -/
def init (view : σ → ω) (runtime : Runtime ω ρ) (entry : Entry σ ρ) (launch : Launch σ ρ)
    (call : InitCall) : Launch σ ρ :=
  if !call.registered then launch.answer runtime initRefused
  else
    let counted := { launch with calls := launch.calls + 1 }
    if launch.calls ≠ 0 then
      { counted with violation := some .duplicateInit }.answer runtime initRefused
    else
      match call.handle with
      | none => { counted with violation := some .nullHandle }.answer runtime initRefused
      | some handle => counted.enter view runtime entry handle

/-- What the host makes of the start once the runtime has returned. -/
def finish (launch : Launch σ ρ) (status : Int32) : Outcome Error Int32 :=
  match launch.panic, launch.violation, launch.calls with
  | some text, _, _ => .panicked text
  | none, some violation, _ => .failed (.protocolViolation violation)
  | none, none, 0 => .failed (.initialization status)
  | none, none, 1 => .ok status
  | none, none, _ => .failed (.protocolViolation .duplicateInit)

end Launch

/-- A host's access to a runtime for one application. -/
structure Bridge where
  appId : String
  started : Bool
deriving DecidableEq, Repr

namespace Bridge

/-- A bridge that was never started. -/
def fresh (appId : String) : Bridge := ⟨appId, false⟩

/-- The reason for not starting with an application id that holds a NUL. -/
def appIdHasNul (appId : String) : Error :=
  .invalidArgument ("application id '" ++ escaped appId ++ "' contains a NUL byte")

/-- Starts the runtime and runs the entry inside it. Only the first start of a bridge gets as far
as the runtime, and only with an application id without a NUL. -/
def start (view : σ → ω) (runtime : Runtime ω ρ) (entry : Entry σ ρ) (bridge : Bridge)
    (state : σ × ρ) : (σ × ρ) × Bridge × Outcome Error Int32 :=
  if bridge.started then (state, bridge, .failed .alreadyStarted)
  else
    let used := { bridge with started := true }
    if hasNul (encode bridge.appId) then (state, used, .failed (appIdHasNul bridge.appId))
    else
      let (startup, inside) :=
        runtime.start (view state.1) (terminate (encode bridge.appId)) state.2
      let launch := startup.calls.foldl (Launch.init view runtime entry)
        (.fresh (state.1, inside))
      (launch.state, used, launch.finish (startup.returns.status launch.values))

end Bridge

end SessionHost.Session
