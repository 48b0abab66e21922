import SessionHost.Config.Storage
import SessionHost.Engine.Application
import SessionHost.Session.Boundary
import SessionHost.Text.Terminated

/-!
The engine as a runtime: what its two entry points do.
-/

namespace SessionHost.Engine

open Protocol Session Text

/-- The status for an application id that is missing, no text or blank. -/
def invalidAppId : Int32 := 2

/-- What starting the engine comes to: a status at once, or an application whose handle goes to
the init callback. -/
inductive Beginning where
  | status (code : Int32)
  | application (app : Application)

/-- Starts the engine with the buffer that holds the application id, `none` for a null pointer.
The configuration is loaded only if there is an init callback. -/
def begin (machine : Machine) (appId : Option Bytes) (hasInit : Bool) : Beginning :=
  match appId.bind readTerminated? with
  | none => .status invalidAppId
  | some id =>
      if allBlank id then .status invalidAppId
      else if !hasInit then .status 0
      else
        match Config.load machine with
        | .ok config => .application (.fresh id config)
        | .error _ => .application (.fresh id {})

/-- A request to open a session: the buffer that holds the path, `none` for a null pointer, and
whether the handle is not null and a status callback is there. -/
structure OpenRequest where
  path : Option Bytes
  hasHandle : Bool
  hasListener : Bool
deriving DecidableEq, Repr

/-- Answers a request with the events of the open. Without a handle or a readable path nothing
happens, and without a listener nothing is reported. -/
def answer (request : OpenRequest) (app : Application) : Script Event Machine Application :=
  match request.hasHandle, request.path.bind readTerminated? with
  | true, some path =>
      let course := app.openProfile (Path.ofText path)
      (fun result => result.1) <$> if request.hasListener then course else course.mute
  | _, _ => return app

/-- The handle of the one application that a start creates. -/
def theHandle : Handle := ⟨0⟩

/-- The engine as a runtime. Its state is the application, once there is one. -/
def runtime : Runtime Machine (Option Application) where
  start machine appId _ :=
    match begin machine (some appId) true with
    | .status code => (⟨[], .always code⟩, none)
    | .application app => (⟨[⟨some theHandle, true⟩], .first⟩, some app)
  initReturned _ state := state
  openSession _ path state :=
    match state with
    | none => .done none
    | some app =>
        (answer ⟨some path, true, true⟩ app).mapMessages (fun event => ⟨.ofEvent event, true⟩)
          >>= fun app => return some app

end SessionHost.Engine
