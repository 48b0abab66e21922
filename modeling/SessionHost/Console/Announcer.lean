import SessionHost.Console.Logger
import SessionHost.Session.Delivery

/-!
Events of an opening session on the console.
-/

namespace SessionHost.Console

open Protocol Session

/-- What the console is asked to do about an event: to tell of it, and to move a progress bar that
lasts from the first plugin of a burst to the last. -/
def callsFor (event : Event) : List Call :=
  .info event.announcement ::
    match event with
    | .loadPlugin load =>
        (if load.index = 0 then [.progressStart load.count "plugins"] else [])
          ++ .progressUpdate load.position load.name
          :: (if load.isLast then [.progressFinish] else [])
    | .loaded => []
    | _ => [.spinnerMessage]

/-- The console as a receiver of events. It never panics. -/
def sink : Sink Console := fun event console => (console.performAll (callsFor event), none)

end SessionHost.Console
