import SessionHost.Session.Launch

/-!
Entries that open a list of profiles one after the other, and a journal of what they saw.
-/

namespace SessionHost.Session

open Protocol

/-- What one open showed to its host: the events that the sink got, and how it came back. -/
structure Attempt.Report where
  events : List Event
  outcome : Outcome Error Summary
deriving DecidableEq, Repr

/-- What a host has seen: how often its entry ran, the opens that came back, and the events of
the open under way. The surroundings of the runtime stand beside it. -/
structure Journal (ω : Type) where
  around : ω
  entered : Nat
  reports : List Attempt.Report
  events : List Event

namespace Journal

variable {ω : Type}

/-- Nothing seen yet. -/
def fresh (around : ω) : Journal ω := ⟨around, 0, [], []⟩

/-- Records each event, then panics on those that `panics` names by their place in the open. -/
def sink (panics : Nat → Option String) : Sink (Journal ω) := fun event journal =>
  ({ journal with events := journal.events ++ [event] }, panics journal.events.length)

/-- Closes the report of the open under way. -/
def close (outcome : Outcome Error Summary) (journal : Journal ω) : Journal ω :=
  { journal with reports := journal.reports ++ [⟨journal.events, outcome⟩], events := [] }

end Journal

/-- One open of an entry: the path, what befalls the runtime just before, the events its sink
panics on, and whether the entry goes on after a panic. -/
structure Attempt (ρ : Type) where
  path : Bytes
  prepare : ρ → ρ
  panics : Nat → Option String
  guarded : Bool

variable {ω ρ : Type}

/-- Makes the attempts in order. A panic in one that is not guarded ends the run. -/
def attemptAll (opener : Opener (Journal ω) ρ) (ending : Ending) :
    List (Attempt ρ) → Journal ω × ρ → (Journal ω × ρ) × Ending
  | [], state => (state, ending)
  | attempt :: rest, state =>
      let result := opener attempt.path (Journal.sink attempt.panics)
        (state.1, attempt.prepare state.2)
      let closed := (result.1.1.close result.2, result.1.2)
      match result.2, attempt.guarded with
      | .panicked text, false => (closed, .panicked text)
      | _, _ => attemptAll opener ending rest closed

/-- The entry that makes the attempts in order and then ends as given. -/
def Entry.ofAttempts (attempts : List (Attempt ρ)) (ending : Ending) : Entry (Journal ω) ρ :=
  fun opener state =>
    attemptAll opener ending attempts
      ({ state.1 with entered := state.1.entered + 1 }, state.2)

end SessionHost.Session
