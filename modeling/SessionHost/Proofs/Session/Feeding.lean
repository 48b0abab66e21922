import SessionHost.Proofs.Protocol.History
import SessionHost.Session.Delivery

/-!
What a delivery makes of a list of notifications.

Two things settle it. `survey` looks at the notifications alone: which events they stand for up to
the first that is refused. `Sink.feed` looks at the sink alone: it hands over events until the sink
panics. `receiveAll_spec` says that a delivery feeds its sink with what the survey accepts, and
`finish_receiveAll` how the open then ends.
-/

namespace SessionHost.Session

open Protocol

variable {σ : Type}

/-! ### Accepted notifications -/

/-- Every notification can be read and may come where it comes; in order they stand for the events,
which lead from the first stage to the last. -/
inductive Accepts : Stage → List Notification → List Event → Stage → Prop where
  | nil (stage : Stage) : Accepts stage [] [] stage
  | cons {stage next last : Stage} {notification : Notification} {event : Event}
      {notifications : List Notification} {events : List Event} :
      notification.decode = .ok event → stage.advance event = .ok next →
      Accepts next notifications events last →
      Accepts stage (notification :: notifications) (event :: events) last

/-- Notifications are accepted if they can be read and their events are in order. -/
theorem accepts_iff {stage last : Stage} {notifications : List Notification}
    {events : List Event} :
    Accepts stage notifications events last ↔
      notifications.map Notification.decode = events.map .ok ∧
        stage.advanceAll events = .ok last := by
  constructor
  · intro accepts
    induction accepts with
    | nil stage => exact ⟨rfl, rfl⟩
    | cons decoded step _ ih =>
        refine ⟨by simp [decoded, ih.1], ?_⟩
        exact Stage.advanceAll_cons_eq_ok_iff.mpr ⟨_, Stage.advance_eq_ok_iff.mp step, ih.2⟩
  · rintro ⟨decoded, run⟩
    induction events generalizing stage notifications with
    | nil =>
        rw [List.map_nil, List.map_eq_nil_iff] at decoded
        subst decoded
        cases run
        exact .nil _
    | cons event events ih =>
        obtain ⟨notification, rest, rfl, first, decoded⟩ := List.map_eq_cons_iff.mp decoded
        obtain ⟨next, step, run⟩ := Stage.advanceAll_cons_eq_ok_iff.mp run
        exact .cons first step.advance (ih decoded run)

/-- What a stage makes of a notification. -/
theorem judge_eq_ok_iff {stage next : Stage} {notification : Notification} {event : Event} :
    Delivery.judge stage notification = .ok (next, event) ↔
      notification.decode = .ok event ∧ stage.advance event = .ok next := by
  unfold Delivery.judge
  cases decoded : notification.decode with
  | error violation => simp [bind, Except.bind]
  | ok found =>
      cases taken : stage.advance found with
      | error violation =>
          simp only [bind, Except.bind, taken, reduceCtorEq, Except.ok.injEq, false_iff]
          rintro ⟨rfl, step⟩
          rw [taken] at step
          cases step
      | ok reached =>
          simp only [bind, Except.bind, taken, pure, Except.pure, Except.ok.injEq, Prod.mk.injEq]
          constructor
          · rintro ⟨rfl, rfl⟩
            exact ⟨rfl, taken⟩
          · rintro ⟨rfl, step⟩
            exact ⟨Except.ok.inj (taken.symm.trans step), rfl⟩

/-! ### Surveys -/

/-- What notifications come to, whatever sink they go to: the events of those that are accepted, the
stage that they lead to, and why the next notification was refused, if one was. -/
structure Survey where
  events : List Event
  stage : Stage
  refusal : Option Violation

/-- The survey with an event in front that led to it. -/
def Survey.prepend (event : Event) (found : Survey) : Survey :=
  { found with events := event :: found.events }

/-- Looks at notifications from a stage on, up to the first that is refused. -/
def survey (stage : Stage) : List Notification → Survey
  | [] => ⟨[], stage, none⟩
  | notification :: rest =>
      match Delivery.judge stage notification with
      | .error violation => ⟨[], stage, some violation⟩
      | .ok (next, event) => (survey next rest).prepend event

theorem survey_cons_of_error {stage : Stage} {notification : Notification}
    {rest : List Notification} {violation : Violation}
    (refused : Delivery.judge stage notification = .error violation) :
    survey stage (notification :: rest) = ⟨[], stage, some violation⟩ := by
  simp [survey, refused]

theorem survey_cons_of_ok {stage next : Stage} {notification : Notification} {event : Event}
    {rest : List Notification} (accepted : Delivery.judge stage notification = .ok (next, event)) :
    survey stage (notification :: rest) = (survey next rest).prepend event := by
  simp [survey, accepted]

/-- The events of a survey are those of the notifications it got through. -/
theorem survey_accepts (stage : Stage) (notifications : List Notification) :
    Accepts stage (notifications.take (survey stage notifications).events.length)
      (survey stage notifications).events (survey stage notifications).stage := by
  induction notifications generalizing stage with
  | nil => exact .nil stage
  | cons notification rest ih =>
      cases judged : Delivery.judge stage notification with
      | error violation =>
          rw [survey_cons_of_error judged]
          exact .nil stage
      | ok pair =>
          obtain ⟨decoded, step⟩ := judge_eq_ok_iff.mp judged
          rw [survey_cons_of_ok judged]
          exact .cons decoded step (ih pair.1)

/-- A survey gets through whatever is accepted. -/
theorem Accepts.le_survey {stage last : Stage} {notifications : List Notification}
    {events : List Event} {n : Nat} (inside : n ≤ notifications.length)
    (accepts : Accepts stage (notifications.take n) events last) :
    n ≤ (survey stage notifications).events.length := by
  induction notifications generalizing stage events n with
  | nil => exact inside
  | cons notification rest ih =>
      cases n with
      | zero => exact Nat.zero_le _
      | succ n =>
          cases accepts with
          | cons decoded step accepts =>
              rw [survey_cons_of_ok (judge_eq_ok_iff.mpr ⟨decoded, step⟩)]
              exact Nat.succ_le_succ (ih (Nat.le_of_succ_le_succ inside) accepts)

/-- A survey that gets through all notifications is one that finds nothing to refuse. -/
theorem survey_eq_iff_accepts {stage last : Stage} {notifications : List Notification}
    {events : List Event} :
    survey stage notifications = ⟨events, last, none⟩ ↔
      Accepts stage notifications events last := by
  induction notifications generalizing stage events with
  | nil =>
      constructor
      · intro found
        cases found
        exact .nil _
      · intro accepts
        cases accepts
        rfl
  | cons notification rest ih =>
      constructor
      · intro found
        cases judged : Delivery.judge stage notification with
        | error violation =>
            rw [survey_cons_of_error judged] at found
            cases found
        | ok pair =>
            obtain ⟨decoded, step⟩ := judge_eq_ok_iff.mp judged
            rw [survey_cons_of_ok judged, Survey.prepend, Survey.mk.injEq] at found
            obtain ⟨rfl, reached, clean⟩ := found
            refine .cons decoded step (ih.mp ?_)
            rw [← reached, ← clean]
      · intro accepts
        cases accepts with
        | cons decoded step accepts =>
            rw [survey_cons_of_ok (judge_eq_ok_iff.mpr ⟨decoded, step⟩), ih.mpr accepts]
            rfl

/-- Nothing is refused exactly when the survey gets through all notifications. -/
theorem survey_refusal_eq_none_iff {stage : Stage} {notifications : List Notification} :
    (survey stage notifications).refusal = none ↔
      (survey stage notifications).events.length = notifications.length := by
  induction notifications generalizing stage with
  | nil => simp [survey]
  | cons notification rest ih =>
      cases judged : Delivery.judge stage notification with
      | error violation => simp [survey_cons_of_error judged]
      | ok pair => simp [survey_cons_of_ok judged, Survey.prepend, ih]

/-! ### Sinks -/

/-- What became of events that were handed to a sink: those that it got, the host's state after
them, and the text of its panic, if it panicked. -/
structure Feeding (σ : Type) where
  handed : List Event
  host : σ
  panic : Option String

/-- The feeding with an event in front that the sink got before. -/
def Feeding.prepend (event : Event) (feeding : Feeding σ) : Feeding σ :=
  { feeding with handed := event :: feeding.handed }

namespace Sink

/-- Hands events to a sink in order, until it panics on one. -/
def feed (sink : Sink σ) (host : σ) : List Event → Feeding σ
  | [] => ⟨[], host, none⟩
  | event :: rest =>
      match sink event host with
      | (after, some text) => ⟨[event], after, some text⟩
      | (after, none) => (feed sink after rest).prepend event

theorem feed_cons_of_panic {sink : Sink σ} {host : σ} {event : Event} {rest : List Event}
    {text : String} (panicked : (sink event host).2 = some text) :
    sink.feed host (event :: rest) = ⟨[event], (sink event host).1, some text⟩ := by
  rw [feed, ← Prod.eta (sink event host), panicked]

theorem feed_cons_of_calm {sink : Sink σ} {host : σ} {event : Event} {rest : List Event}
    (calm : (sink event host).2 = none) :
    sink.feed host (event :: rest) = (sink.feed (sink event host).1 rest).prepend event := by
  rw [feed, ← Prod.eta (sink event host), calm]

/-- A sink gets a first part of the events. -/
theorem feed_handed_prefix (sink : Sink σ) (host : σ) (events : List Event) :
    (sink.feed host events).handed <+: events := by
  induction events generalizing host with
  | nil => exact List.prefix_refl _
  | cons event rest ih =>
      cases panic : (sink event host).2 with
      | some text =>
          rw [feed_cons_of_panic panic]
          exact ⟨rest, rfl⟩
      | none =>
          rw [feed_cons_of_calm panic]
          exact (List.prefix_cons_inj event).mpr (ih _)

/-- A sink that never panics. -/
def Calm (sink : Sink σ) : Prop := ∀ event host, (sink event host).2 = none

/-- The host's state after a sink got events, whether or not it panicked on the way. -/
def hostAfter (sink : Sink σ) (host : σ) (events : List Event) : σ :=
  events.foldl (fun host event => (sink event host).1) host

/-- A sink that never panics gets all the events. -/
theorem Calm.feed_eq {sink : Sink σ} (calm : sink.Calm) (host : σ) (events : List Event) :
    sink.feed host events = ⟨events, sink.hostAfter host events, none⟩ := by
  induction events generalizing host with
  | nil => rfl
  | cons event rest ih =>
      rw [feed_cons_of_calm (calm event host), ih]
      rfl

end Sink

/-! ### Deliveries -/

/-- The names of the plugins that events are about. -/
def pluginNames (events : List Event) : List String :=
  events.filterMap fun event => event.plugin?.map PluginLoad.name

theorem pluginNames_completed (loads : List PluginLoad) :
    pluginNames (completed loads) = loads.map PluginLoad.name := by
  have plugins : pluginNames (loads.map .loadPlugin) = loads.map PluginLoad.name := by
    induction loads with
    | nil => rfl
    | cons load loads ih => exact congrArg (load.name :: ·) ih
  rw [← plugins]
  simp [pluginNames, completed, opening, Event.plugin?]

namespace Delivery

theorem notePlugin_eq (plugins : List String) (event : Event) :
    notePlugin plugins event = plugins ++ pluginNames [event] := by
  unfold notePlugin pluginNames
  cases about : event.plugin? with
  | none => simp [about]
  | some load => simp [about]

theorem receive_of_error {sink : Sink σ} {notification : Notification} {delivery : Delivery σ}
    {violation : Violation} (going : delivery.halt = none)
    (refused : judge delivery.stage notification = .error violation) :
    delivery.receive sink notification
      = { delivery with halt := some (.violation violation) } := by
  simp [receive, going, refused]

theorem receive_of_ok {sink : Sink σ} {notification : Notification} {delivery : Delivery σ}
    {next : Stage} {event : Event} (going : delivery.halt = none)
    (accepted : judge delivery.stage notification = .ok (next, event)) :
    delivery.receive sink notification
      = ⟨(sink event delivery.host).1, next, notePlugin delivery.plugins event,
          (sink event delivery.host).2.map .panic⟩ := by
  simp [receive, going, accepted, forward]

/-- Nothing reaches a delivery that has halted. -/
theorem receiveAll_of_halt {sink : Sink σ} {delivery : Delivery σ} (halted : delivery.halt ≠ none)
    (notifications : List Notification) :
    delivery.receiveAll sink notifications = delivery := by
  induction notifications with
  | nil => rfl
  | cons notification rest ih =>
      obtain ⟨halt, some⟩ := Option.ne_none_iff_exists'.mp halted
      rw [receiveAll, List.foldl_cons, receive, some]
      exact ih

theorem receiveAll_append (sink : Sink σ) (before after : List Notification)
    (delivery : Delivery σ) :
    delivery.receiveAll sink (before ++ after)
      = (delivery.receiveAll sink before).receiveAll sink after :=
  List.foldl_append

/-- A delivery feeds its sink with the events that the survey accepts. It halts if the sink panics,
and else if something is refused; if the sink did not panic it is left at the stage that the
survey found, with the names of all accepted plugins. -/
theorem receiveAll_spec (sink : Sink σ) {delivery : Delivery σ} (going : delivery.halt = none)
    (notifications : List Notification) :
    let found := survey delivery.stage notifications
    let feeding := sink.feed delivery.host found.events
    let last := delivery.receiveAll sink notifications
    last.host = feeding.host ∧
      last.halt = (feeding.panic.map .panic).or (found.refusal.map .violation) ∧
      (feeding.panic = none →
        last.stage = found.stage ∧
          last.plugins = delivery.plugins ++ pluginNames found.events) := by
  induction notifications generalizing delivery with
  | nil => simp [receiveAll, survey, Sink.feed, pluginNames, going]
  | cons notification rest ih =>
      rw [receiveAll, List.foldl_cons, ← receiveAll]
      cases judged : judge delivery.stage notification with
      | error violation =>
          rw [receive_of_error going judged, survey_cons_of_error judged,
            receiveAll_of_halt (Option.some_ne_none _)]
          simp [Sink.feed, pluginNames]
      | ok pair =>
          obtain ⟨next, event⟩ := pair
          rw [receive_of_ok going judged, survey_cons_of_ok judged]
          cases panic : (sink event delivery.host).2 with
          | some text =>
              rw [receiveAll_of_halt (Option.some_ne_none _)]
              simp [Survey.prepend, Sink.feed_cons_of_panic panic]
          | none =>
              simp only [Survey.prepend, Sink.feed_cons_of_calm panic, Feeding.prepend]
              obtain ⟨host, halt, reached⟩ := @ih ⟨(sink event delivery.host).1, next,
                notePlugin delivery.plugins event, none⟩ rfl
              refine ⟨host, halt, fun calm => ?_⟩
              obtain ⟨stage, plugins⟩ := reached calm
              refine ⟨stage, plugins.trans ?_⟩
              rw [notePlugin_eq, List.append_assoc, pluginNames, pluginNames,
                ← List.filterMap_append]
              rfl

/-- How an open ends after its notifications: a panic of the sink comes before a refusal, and a
refusal before the stage that was reached. -/
theorem finish_receiveAll (sink : Sink σ) (host : σ) (notifications : List Notification) :
    let found := survey .idle notifications
    let feeding := sink.feed host found.events
    ((fresh host).receiveAll sink notifications).finish =
      match feeding.panic, found.refusal with
      | some text, _ => .panicked text
      | none, some violation => .failed (.protocolViolation violation)
      | none, none =>
          if found.stage.isFinal then .ok ⟨pluginNames found.events⟩
          else .failed (.incomplete found.stage.lastPhase?) := by
  have going : (fresh host).halt = none := rfl
  obtain ⟨-, halt, reached⟩ := receiveAll_spec sink going notifications
  simp only [fresh, List.nil_append] at halt reached ⊢
  unfold finish
  cases panic : (sink.feed host (survey .idle notifications).events).panic with
  | some text => simp [halt, panic]
  | none =>
      obtain ⟨stage, plugins⟩ := reached panic
      cases refusal : (survey .idle notifications).refusal with
      | some violation => simp [halt, panic, refusal]
      | none => simp [halt, panic, refusal, stage, plugins]

end Delivery

end SessionHost.Session
