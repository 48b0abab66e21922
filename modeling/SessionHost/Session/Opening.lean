import SessionHost.Session.Boundary
import SessionHost.Session.Delivery
import SessionHost.Text.Escaped
import SessionHost.Text.Terminated

/-!
Opening a session from the host's side.
-/

namespace SessionHost.Session

open Text Protocol

/-- The path as it may cross the boundary: text, not empty and without a NUL. -/
def checkPath (path : Bytes) : Except Error Bytes :=
  match decode? path with
  | none =>
      .error (.invalidArgument ("configuration path " ++ lossy path ++ " is not valid UTF-8"))
  | some text =>
      if path.isEmpty then .error (.invalidArgument "configuration path is empty")
      else if hasNul path then
        .error (.invalidArgument
          ("configuration path '" ++ escaped text ++ "' contains a NUL byte"))
      else .ok path

variable {ω ρ σ : Type}

/-- What a call of the status callback does. One that does not bring back what the host
registered is ignored. -/
def StatusCall.deliver (sink : Sink σ) (call : StatusCall) (delivery : Delivery σ) : Delivery σ :=
  if call.registered then delivery.receive sink call.notification else delivery

/-- Opens a session with the handle. `view` shows the runtime its surroundings in the host's
state. -/
def openSession (view : σ → ω) (runtime : Runtime ω ρ) (handle : Handle) (path : Bytes)
    (sink : Sink σ) (state : σ × ρ) : (σ × ρ) × Outcome Error Summary :=
  match checkPath path with
  | .error error => (state, .failed error)
  | .ok path =>
      let result := (runtime.openSession handle (terminate path) state.2).run
        (fun delivery => view delivery.host) (StatusCall.deliver sink) (.fresh state.1)
      ((result.1.host, result.2), result.1.finish)

end SessionHost.Session
