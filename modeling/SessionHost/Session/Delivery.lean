import SessionHost.Protocol.Notification
import SessionHost.Protocol.Order
import SessionHost.Session.Error

/-!
Delivery of notifications to a host's sink during one open.

Each notification is decoded, checked against the stage reached so far and handed to the sink. The
first one that does not fit, or that the sink panics on, halts the delivery: it settles the result
of the open, and nothing after it has any effect.
-/

namespace SessionHost.Session

open Protocol

/-- A host's receiver of events. It updates the host's state `σ` and may panic with a text. -/
abbrev Sink (σ : Type) := Event → σ → σ × Option String

/-- Why no further notification is looked at. -/
inductive Halt where
  | violation (violation : Violation)
  | panic (text : String)
deriving DecidableEq, Repr

/-- An open under way: the host's state, the stage reached, the names of the plugins so far and
what halted the delivery, if anything did. -/
structure Delivery (σ : Type) where
  host : σ
  stage : Stage
  plugins : List String
  halt : Option Halt

namespace Delivery

variable {σ : Type}

/-- Nothing delivered yet. -/
def fresh (host : σ) : Delivery σ := ⟨host, .idle, [], none⟩

/-- The plugin names after an event. -/
def notePlugin (plugins : List String) (event : Event) : List String :=
  match event.plugin? with
  | some load => plugins ++ [load.name]
  | none => plugins

/-- Takes an event that may come at this stage and hands it to the sink. -/
def forward (sink : Sink σ) (delivery : Delivery σ) (next : Stage) (event : Event) : Delivery σ :=
  let result := sink event delivery.host
  ⟨result.1, next, notePlugin delivery.plugins event, result.2.map .panic⟩

/-- The stage and event that a notification leads to, or why it is refused. -/
def judge (stage : Stage) (notification : Notification) : Except Violation (Stage × Event) := do
  let event ← notification.decode
  let next ← stage.advance event
  return (next, event)

/-- One notification. -/
def receive (sink : Sink σ) (notification : Notification) (delivery : Delivery σ) : Delivery σ :=
  match delivery.halt with
  | some _ => delivery
  | none =>
      match judge delivery.stage notification with
      | .error violation => { delivery with halt := some (.violation violation) }
      | .ok (next, event) => delivery.forward sink next event

/-- A run of notifications in the order of their coming. -/
def receiveAll (sink : Sink σ) (notifications : List Notification) (delivery : Delivery σ) :
    Delivery σ :=
  notifications.foldl (fun state notification => state.receive sink notification) delivery

/-- The result of the open once the runtime has returned. -/
def finish (delivery : Delivery σ) : Outcome Error Summary :=
  match delivery.halt with
  | some (.panic text) => .panicked text
  | some (.violation violation) => .failed (.protocolViolation violation)
  | none =>
      if delivery.stage.isFinal then .ok ⟨delivery.plugins⟩
      else .failed (.incomplete delivery.stage.lastPhase?)

end Delivery

end SessionHost.Session
