import SessionHost.Proofs.Session.Feeding

/-!
What a host gets to see of an open.

`Sink.recorded` watches a sink without disturbing it (`Delivery.receiveAll_recorded`), and `handed`
lists the events that a delivery handed over. `Delivery.history_of_handed` says where the delivery
stands at each of them, and `handed_longest_accepted` which these are.
-/

namespace SessionHost.Session

open Protocol

variable {σ : Type}

/-! ### Watching a sink -/

/-- The sink, with a record beside the host's state of all events that it got. -/
def Sink.recorded (sink : Sink σ) : Sink (σ × List Event) := fun event state =>
  (((sink event state.1).1, state.2 ++ [event]), (sink event state.1).2)

theorem Sink.Calm.recorded {sink : Sink σ} (calm : sink.Calm) : sink.recorded.Calm :=
  fun event state => calm event state.1

/-- The record takes down what the sink is handed, and nothing else changes. -/
theorem Sink.feed_recorded (sink : Sink σ) (host : σ) (seen events : List Event) :
    sink.recorded.feed (host, seen) events
      = ⟨(sink.feed host events).handed,
          ((sink.feed host events).host, seen ++ (sink.feed host events).handed),
          (sink.feed host events).panic⟩ := by
  induction events generalizing host seen with
  | nil => simp [feed]
  | cons event rest ih =>
      cases panic : (sink event host).2 with
      | some text =>
          have watched : (sink.recorded event (host, seen)).2 = some text := panic
          rw [feed_cons_of_panic panic, feed_cons_of_panic watched]
          rfl
      | none =>
          have watched : (sink.recorded event (host, seen)).2 = none := panic
          rw [feed_cons_of_calm panic, feed_cons_of_calm watched]
          simp [recorded, ih, Feeding.prepend]

/-- The events that a fresh delivery hands to a sink, as a record of them shows. -/
def handed (sink : Sink σ) (host : σ) (notifications : List Notification) : List Event :=
  (Delivery.receiveAll sink.recorded notifications (.fresh (host, []))).host.2

/-- A watched delivery ends as one that is not watched, with the host's state the same. -/
theorem Delivery.receiveAll_recorded (sink : Sink σ) (host : σ)
    (notifications : List Notification) :
    let watched := receiveAll sink.recorded notifications (fresh (host, []))
    let plain := receiveAll sink notifications (fresh host)
    watched.host.1 = plain.host ∧ watched.finish = plain.finish := by
  have going : (fresh host).halt = none := rfl
  have goingRecorded : (fresh (host, ([] : List Event))).halt = none := rfl
  refine ⟨?_, ?_⟩
  · rw [(receiveAll_spec sink going notifications).1,
      (receiveAll_spec sink.recorded goingRecorded notifications).1]
    simp only [fresh, Sink.feed_recorded]
  · rw [finish_receiveAll, finish_receiveAll]
    simp only [Sink.feed_recorded]

/-- A delivery hands over what the survey accepts, as far as the sink goes along. -/
theorem handed_eq (sink : Sink σ) (host : σ) (notifications : List Notification) :
    handed sink host notifications
      = (sink.feed host (survey .idle notifications).events).handed := by
  have going : (Delivery.fresh (host, ([] : List Event))).halt = none := rfl
  rw [handed, (Delivery.receiveAll_spec sink.recorded going notifications).1]
  simp [Delivery.fresh, Sink.feed_recorded]

/-- A sink that never panics is handed all that the survey accepts. -/
theorem Sink.Calm.handed_eq {sink : Sink σ} (calm : sink.Calm) (host : σ)
    (notifications : List Notification) :
    handed sink host notifications = (survey .idle notifications).events := by
  rw [Session.handed_eq, calm.feed_eq]

/-! ### Where a delivery stands -/

/-- When a sink is handed an event, the delivery stands where the events so far have led. -/
theorem Delivery.advanceAll_of_feed {sink : Sink σ} {delivery : Delivery σ}
    (going : delivery.halt = none) {notifications : List Notification} {i : Nat}
    (got : i < (sink.feed delivery.host
      (survey delivery.stage notifications).events).handed.length) :
    delivery.stage.advanceAll ((sink.feed delivery.host
        (survey delivery.stage notifications).events).handed.take (i + 1))
      = .ok (delivery.receiveAll sink (notifications.take (i + 1))).stage := by
  induction notifications generalizing delivery i with
  | nil => exact absurd got (Nat.not_lt_zero i)
  | cons notification rest ih =>
      cases judged : judge delivery.stage notification with
      | error violation =>
          rw [survey_cons_of_error judged] at got
          exact absurd got (Nat.not_lt_zero i)
      | ok pair =>
          obtain ⟨next, event⟩ := pair
          have step := Stage.advance_eq_ok_iff.mp (judge_eq_ok_iff.mp judged).2
          rw [survey_cons_of_ok judged, Survey.prepend] at got ⊢
          rw [List.take_succ_cons, receiveAll, List.foldl_cons, ← receiveAll,
            receive_of_ok going judged]
          cases panic : (sink event delivery.host).2 with
          | some text =>
              -- A sink that panics is handed nothing more.
              simp only [Sink.feed_cons_of_panic panic] at got ⊢
              obtain rfl : i = 0 := Nat.lt_one_iff.mp got
              exact Stage.advanceAll_singleton_eq_ok_iff.mpr step
          | none =>
              simp only [Sink.feed_cons_of_calm panic, Feeding.prepend] at got ⊢
              rw [List.take_succ_cons, Stage.advanceAll_cons_eq_ok_iff]
              refine ⟨next, step, ?_⟩
              cases i with
              | zero => rfl
              | succ i =>
                  rw [List.length_cons] at got
                  exact @ih ⟨(sink event delivery.host).1, next, _, none⟩ rfl i
                    (Nat.lt_of_succ_lt_succ got)

/-- So the events that a sink has got are the history of the stage that the delivery is at. -/
theorem Delivery.history_of_handed {sink : Sink σ} {host : σ} {notifications : List Notification}
    {i : Nat} (got : i < (handed sink host notifications).length) :
    Stage.History ((fresh host).receiveAll sink (notifications.take (i + 1))).stage
      ((handed sink host notifications).take (i + 1)) := by
  have going : (fresh host).halt = none := rfl
  rw [handed_eq] at got ⊢
  exact .of_advanceAll (advanceAll_of_feed going got)

/-- All that a sink gets is the history of some stage. -/
theorem exists_history_handed (sink : Sink σ) (host : σ) (notifications : List Notification) :
    ∃ stage, Stage.History stage (handed sink host notifications) := by
  have accepts := survey_accepts .idle notifications
  obtain ⟨rest, whole⟩ :=
    Sink.feed_handed_prefix sink host (survey .idle notifications).events
  have run := (accepts_iff.mp accepts).2
  rw [← whole] at run
  obtain ⟨stage, reached, -⟩ := Stage.advanceAll_append_eq_ok_iff.mp run
  rw [handed_eq]
  exact ⟨stage, .of_advanceAll reached⟩

/-! ### Safety -/

/-- A delivery has halted exactly when something was refused or the sink panicked. -/
theorem Delivery.halt_receiveAll_ne_none_iff (sink : Sink σ) (host : σ)
    (notifications : List Notification) :
    (receiveAll sink notifications (fresh host)).halt ≠ none ↔
      (survey .idle notifications).refusal ≠ none ∨
        (sink.feed host (survey .idle notifications).events).panic ≠ none := by
  have going : (fresh host).halt = none := rfl
  rw [(receiveAll_spec sink going notifications).2.1]
  simp only [fresh]
  cases (sink.feed host (survey .idle notifications).events).panic <;>
    cases (survey .idle notifications).refusal <;> simp

/-- **What a host sees is safe.** Of all first parts of the notifications that can be read and are
in order, take the longest. The sink is handed exactly its events, up to and with the first that it
panics on; these are the beginning of a whole word of the protocol, and the notification after
them that was refused is not among them. Once a notification was refused or the sink panicked,
later notifications neither reach the sink nor change how the open ends. -/
theorem handed_longest_accepted (sink : Sink σ) (host : σ) (notifications : List Notification) :
    ∃ (accepted : List Event) (stage : Stage),
      Accepts .idle (notifications.take accepted.length) accepted stage ∧
      (∀ n ≤ notifications.length, ∀ events last,
        Accepts .idle (notifications.take n) events last → n ≤ accepted.length) ∧
      handed sink host notifications = (sink.feed host accepted).handed ∧
      (∃ loads, CountsUp loads.length loads ∧
        handed sink host notifications <+: completed loads) ∧
      handed sink host (notifications.take accepted.length) = handed sink host notifications ∧
      (accepted.length < notifications.length ∨ (sink.feed host accepted).panic ≠ none →
        ∀ later,
          handed sink host (notifications ++ later) = handed sink host notifications ∧
          ((Delivery.fresh host).receiveAll sink (notifications ++ later)).finish
            = ((Delivery.fresh host).receiveAll sink notifications).finish) := by
  have accepts := survey_accepts .idle notifications
  refine ⟨(survey .idle notifications).events, (survey .idle notifications).stage, accepts,
    fun n inside events last more => more.le_survey inside, handed_eq sink host notifications,
    ?_, ?_, ?_⟩
  · obtain ⟨loads, counts, word⟩ :=
      (Stage.advanceAll_idle_eq_ok_iff.mp (accepts_iff.mp accepts).2).prefix_completed
    refine ⟨loads, counts, ?_⟩
    rw [handed_eq]
    exact (Sink.feed_handed_prefix sink host _).trans word
  · rw [handed_eq, handed_eq, survey_eq_iff_accepts.mpr accepts]
  · intro stopped later
    have halted : (Delivery.receiveAll sink notifications (.fresh host)).halt ≠ none := by
      rw [Delivery.halt_receiveAll_ne_none_iff]
      refine stopped.imp_left fun short clean => ?_
      rw [survey_refusal_eq_none_iff.mp clean] at short
      exact Nat.lt_irrefl _ short
    have haltedRecorded :
        (Delivery.receiveAll sink.recorded notifications (.fresh (host, []))).halt ≠ none := by
      rw [Delivery.halt_receiveAll_ne_none_iff] at halted ⊢
      simpa only [Sink.feed_recorded] using halted
    constructor
    · rw [handed, handed, Delivery.receiveAll_append,
        Delivery.receiveAll_of_halt haltedRecorded]
    · rw [Delivery.receiveAll_append, Delivery.receiveAll_of_halt halted]

end SessionHost.Session
