import SessionHost.Proofs.Protocol.Refusal
import SessionHost.Proofs.Session.Sent
import SessionHost.Proofs.Text.Utf8
import SessionHost.Session.Attempts

/-!
What a failed open says of its notifications.

`Diagnosed` says which error is true of a list of notifications: the violation of the first that is
refused, or else that the end was not reached. `openSession_diagnosed` says that an open which does
not succeed fails with exactly this error.
-/

namespace SessionHost.Session

open Text Protocol

variable {ω ρ σ : Type}

/-! ### Refused notifications -/

/-- The events of accepted notifications have led to the stage after them. -/
theorem Accepts.history {notifications : List Notification} {events : List Event} {stage : Stage}
    (accepted : Accepts .idle notifications events stage) : Stage.History stage events :=
  Stage.advanceAll_idle_eq_ok_iff.mp (accepts_iff.mp accepted).2

/-- The violation is what is wrong with a notification that comes after events: it cannot be read,
whatever these are, or its event may not come after them. -/
def Refutes (events : List Event) (notification : Notification) (violation : Violation) : Prop :=
  notification.Unreadable violation ∨
    ∃ event, notification.decode = .ok event ∧ event.Misplaced events violation

/-- A notification is refused at a stage with what is wrong with it after the events that led
there. -/
theorem judge_eq_error_iff {stage : Stage} {events : List Event}
    (history : Stage.History stage events) {notification : Notification} {violation : Violation} :
    Delivery.judge stage notification = .error violation ↔
      Refutes events notification violation := by
  unfold Delivery.judge Refutes
  rw [← Notification.decode_eq_error_iff]
  cases decoded : notification.decode with
  | error found => simp [bind, Except.bind]
  | ok event =>
      simp only [reduceCtorEq, false_or, Except.ok.injEq, exists_eq_left',
        ← history.advance_eq_error_iff]
      cases taken : stage.advance event <;> simp [bind, Except.bind, pure, Except.pure, taken]

/-- Only one thing is wrong with a notification that is refused. -/
theorem refutes_iff_eq {stage : Stage} {events : List Event} (history : Stage.History stage events)
    {notification : Notification} {violation : Violation}
    (refused : Delivery.judge stage notification = .error violation) (other : Violation) :
    Refutes events notification other ↔ other = violation := by
  rw [← judge_eq_error_iff history, refused, Except.error.injEq]
  exact eq_comm

/-- A survey that finds something to refuse got through the notifications before it. -/
theorem survey_eq_iff_refuses {stage last : Stage} {notifications : List Notification}
    {events : List Event} {violation : Violation} :
    survey stage notifications = ⟨events, last, some violation⟩ ↔
      ∃ before notification after, notifications = before ++ notification :: after ∧
        Accepts stage before events last ∧
        Delivery.judge last notification = .error violation := by
  induction notifications generalizing stage events with
  | nil => simp [survey]
  | cons notification rest ih =>
      constructor
      · intro found
        cases judged : Delivery.judge stage notification with
        | error refusal =>
            rw [survey_cons_of_error judged] at found
            cases found
            exact ⟨[], notification, rest, rfl, .nil _, judged⟩
        | ok pair =>
            obtain ⟨decoded, step⟩ := judge_eq_ok_iff.mp judged
            rw [survey_cons_of_ok judged, Survey.prepend, Survey.mk.injEq] at found
            obtain ⟨rfl, reached, refused⟩ := found
            have later : survey pair.1 rest
                = ⟨(survey pair.1 rest).events, last, some violation⟩ := by
              rw [← reached, ← refused]
            obtain ⟨before, offender, after, rfl, accepts, refuses⟩ := ih.mp later
            exact ⟨notification :: before, offender, after, rfl, .cons decoded step accepts,
              refuses⟩
      · rintro ⟨before, offender, after, split, accepts, refuses⟩
        cases accepts with
        | nil =>
            obtain ⟨rfl, rfl⟩ := List.cons.inj split
            exact survey_cons_of_error refuses
        | cons decoded step accepts =>
            obtain ⟨rfl, rfl⟩ := List.cons.inj split
            rw [survey_cons_of_ok (judge_eq_ok_iff.mpr ⟨decoded, step⟩),
              ih.mpr ⟨_, offender, after, rfl, accepts, refuses⟩]
            rfl

/-! ### Errors -/

/-- The error is true of the notifications. Either one is refused after those before it were
accepted, and the violation is the one thing that is wrong with it; or all are accepted and `loaded`
is not among their events. -/
inductive Diagnosed (notifications : List Notification) : Error → Prop where
  | violation {before after : List Notification} {notification : Notification}
      {events : List Event} {stage : Stage} {violation : Violation}
      (split : notifications = before ++ notification :: after)
      (accepted : Accepts .idle before events stage)
      (refused : Delivery.judge stage notification = .error violation)
      (only : ∀ other, Refutes events notification other ↔ other = violation) :
      Diagnosed notifications (.protocolViolation violation)
  | incomplete {events : List Event} {stage : Stage}
      (accepted : Accepts .idle notifications events stage) (unfinished : .loaded ∉ events) :
      Diagnosed notifications (.incomplete (events.getLast?.map Event.phase))

/-- With a sink that never panics, a delivery fails with the error that is true of its
notifications. -/
theorem finish_eq_failed_iff {sink : Sink σ} (calm : sink.Calm) (host : σ)
    (notifications : List Notification) (error : Error) :
    ((Delivery.fresh host).receiveAll sink notifications).finish = .failed error ↔
      Diagnosed notifications error := by
  rw [Delivery.finish_receiveAll, calm.feed_eq]
  constructor
  · intro failed
    cases found : survey .idle notifications with
    | mk events stage refusal =>
        rw [found] at failed
        cases refusal with
        | some violation =>
            obtain ⟨before, notification, after, split, accepted, refused⟩ :=
              survey_eq_iff_refuses.mp found
            obtain rfl := Outcome.failed.inj failed
            exact .violation split accepted refused (refutes_iff_eq accepted.history refused)
        | none =>
            have accepted := survey_eq_iff_accepts.mp found
            have unfinished : stage.isFinal = false := by
              cases final : stage.isFinal with
              | false => rfl
              | true => simp [final] at failed
            simp only [unfinished, Bool.false_eq_true, if_false, Outcome.failed.injEq] at failed
            rw [accepted.history.lastPhase?_eq] at failed
            subst failed
            refine .incomplete accepted fun ended => ?_
            rw [accepted.history.loaded_mem_iff.mp ended] at unfinished
            cases unfinished
  · intro diagnosed
    cases diagnosed with
    | violation split accepted refused only =>
        rw [survey_eq_iff_refuses.mpr ⟨_, _, _, split, accepted, refused⟩]
    | @incomplete events stage accepted unfinished =>
        rw [survey_eq_iff_accepts.mpr accepted]
        have running : stage.isFinal = false := by
          rw [accepted.history.loaded_mem_iff] at unfinished
          simpa [Stage.isFinal] using unfinished
        simp only [running, Bool.false_eq_true, if_false, accepted.history.lastPhase?_eq]

/-- With a sink that never panics, a delivery does not end in a panic. -/
theorem finish_ne_panicked {sink : Sink σ} (calm : sink.Calm) (host : σ)
    (notifications : List Notification) (text : String) :
    ((Delivery.fresh host).receiveAll sink notifications).finish ≠ .panicked text := by
  rw [Delivery.finish_receiveAll, calm.feed_eq]
  cases (survey .idle notifications).refusal with
  | some violation => simp
  | none => cases (survey .idle notifications).stage.isFinal <;> simp

/-- An open with a sink that never panics leaves the host as the events that were handed over did,
and it does not panic. -/
theorem openSession_of_calm (view : σ → ω) (runtime : Runtime ω ρ) (handle : Handle) (path : Bytes)
    {sink : Sink σ} (calm : sink.Calm) (state : σ × ρ) :
    let opened := openSession view runtime handle path sink state
    opened.1.1 = sink.hostAfter state.1 (handedBy view runtime handle path sink state) ∧
      ∀ text, opened.2 ≠ .panicked text := by
  cases checked : checkPath path with
  | error error =>
      simp only [openSession, handedBy, checked]
      refine ⟨rfl, ?_⟩
      intro text panicked
      cases panicked
  | ok path' =>
      obtain rfl := eq_of_checkPath checked
      have going : (Delivery.fresh state.1).halt = none := rfl
      intro opened
      constructor
      · rw [(openSession_eq checked).1, handedBy_eq checked, calm.handed_eq,
          (Delivery.receiveAll_spec sink going _).1, calm.feed_eq]
        rfl
      · intro text
        rw [(openSession_eq checked).2]
        exact finish_ne_panicked calm state.1 _ text

/-- **A failed open says what is wrong.** Let a runtime deliver a list of notifications, in whatever
way it comes to them, to an open whose path the host lets through and whose sink never panics. If
the open does not succeed it fails, and it fails with an error exactly if the error is true of the
notifications: with the violation of the first that is refused, whatever follows it, or, if none is,
with the phase of the last event. -/
theorem openSession_diagnosed (view : σ → ω) (runtime : Runtime ω ρ) (handle : Handle)
    {path : Bytes} (admitted : checkPath path = .ok path) {sink : Sink σ} (calm : sink.Calm)
    (state : σ × ρ) (notifications : List Notification)
    (sent : delivered view runtime handle path sink state = notifications) :
    let outcome := (openSession view runtime handle path sink state).2
    ((∀ summary, outcome ≠ .ok summary) → ∃ error, outcome = .failed error) ∧
      ∀ error, outcome = .failed error ↔ Diagnosed notifications error := by
  intro outcome
  have ended : outcome = ((Delivery.fresh state.1).receiveAll sink notifications).finish := by
    rw [← sent]
    exact (openSession_eq admitted).2
  constructor
  · intro unopened
    cases came : outcome with
    | ok summary => exact absurd came (unopened summary)
    | failed error => exact ⟨error, rfl⟩
    | panicked text =>
        exact absurd (ended.symm.trans came) (finish_ne_panicked calm state.1 notifications text)
  · intro error
    rw [ended]
    exact finish_eq_failed_iff calm state.1 notifications error

/-- A runtime sends one plugin of two, then goes on to the end as if it had sent both. -/
theorem openSession_diagnosed_short_burst :
    let alpha : PluginPayload := ⟨some (encode "alpha"), 5, 0, 2⟩
    let report : List Notification :=
      [⟨0, none⟩, ⟨1, none⟩, ⟨2, none⟩, ⟨3, some alpha⟩, ⟨4, none⟩, ⟨5, none⟩]
    let sink : Sink (Journal Unit) := Journal.sink fun _ => none
    let state : Journal Unit × Rehearsal := (.fresh (), ⟨[], report.map (⟨·, true⟩)⟩)
    checkPath (encode "game.toml") = .ok (encode "game.toml") ∧ sink.Calm ∧
      delivered Journal.around (.rehearsed ⟨[], .first⟩) rehearsedHandle (encode "game.toml") sink
        state = report ∧
      (openSession Journal.around (.rehearsed ⟨[], .first⟩) rehearsedHandle (encode "game.toml")
        sink state).2 = .failed (.protocolViolation (.pluginBurstIncomplete 1 2)) := by
  intro alpha report sink state
  have admitted : checkPath (encode "game.toml") = .ok (encode "game.toml") :=
    checkPath_eq_ok_iff.mpr ⟨⟨_, decode?_encode _⟩, by decide, by decide⟩
  have calm : sink.Calm := fun _ _ => rfl
  have sent : delivered Journal.around (.rehearsed ⟨[], .first⟩) rehearsedHandle
      (encode "game.toml") sink state = report := (delivered_rehearsed admitted).trans rfl
  have accepted : Accepts .idle (report.take 4) (opening [⟨encode "alpha", 0, 2⟩])
      (.loadingPlugins ⟨1, 2⟩) := accepts_iff.mpr ⟨by decide, by decide⟩
  have diagnosed : Diagnosed report (.protocolViolation (.pluginBurstIncomplete 1 2)) :=
    .violation rfl accepted rfl (refutes_iff_eq accepted.history rfl)
  exact ⟨admitted, calm, sent, ((openSession_diagnosed Journal.around (.rehearsed ⟨[], .first⟩)
    rehearsedHandle admitted calm state report sent).2 _).mpr diagnosed⟩

end SessionHost.Session
