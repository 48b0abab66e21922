/-!
Courses of action that send messages and look around between them.

A runtime that opens a session sends notifications, and what it sends may depend on files that it
reads on the way. `Script` describes such a course without carrying it out, and `run` lets each
message act on a state before the next look.
-/

namespace SessionHost.Session

/-- A course of action with messages `μ`, surroundings `ω` and result `α`. -/
inductive Script (μ ω α : Type) where
  | done (result : α)
  | send (message : μ) (next : Script μ ω α)
  | look (next : ω → Script μ ω α)

namespace Script

variable {μ ν ω σ α β : Type}

/-- One course after the other. -/
def bind : Script μ ω α → (α → Script μ ω β) → Script μ ω β
  | done result, next => next result
  | send message rest, next => send message (rest.bind next)
  | look rest, next => look fun around => (rest around).bind next

instance : Monad (Script μ ω) where
  pure := done
  bind := bind

/-- Sends one message. -/
def tell (message : μ) : Script μ ω Unit := send message (done ())

/-- Reads something off the surroundings as they are at this point. -/
def observe (read : ω → α) : Script μ ω α := look fun around => done (read around)

/-- Sends the messages in order, then ends with the result. -/
def sendAll (messages : List μ) (result : α) : Script μ ω α :=
  messages.foldr send (done result)

/-- The same course with each message put into another form. -/
def mapMessages (f : μ → ν) : Script μ ω α → Script ν ω α
  | done result => done result
  | send message next => send (f message) (next.mapMessages f)
  | look next => look fun around => (next around).mapMessages f

/-- The same course without its messages. -/
def mute : Script μ ω α → Script ν ω α
  | done result => done result
  | send _ next => next.mute
  | look next => look fun around => (next around).mute

/-- Carries the course out on a state: `view` shows the surroundings in it, and `receive` is what
a message does to it. -/
def run (view : σ → ω) (receive : μ → σ → σ) : Script μ ω α → σ → σ × α
  | done result, state => (state, result)
  | send message next, state => next.run view receive (receive message state)
  | look next, state => (next (view state)).run view receive state

end Script

end SessionHost.Session
