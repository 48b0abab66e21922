import SessionHost.Proofs.Session.Sent
import SessionHost.Session.Attempts

/-!
Entries that make a list of opens with a runtime that sends what it is told to.

A `Trial` is an open with all that it depends on, and `Trial.report` what it shows by itself.
`Trial.report_eq_panicked_iff` says which trials panic, and `attemptAll_trials` that an entry comes
to the reports of its trials, up to the first whose panic nothing catches.
-/

namespace SessionHost.Session

open Text Protocol

variable {ω : Type}

/-! ### One open -/

/-- An open with all that it depends on: its path, what the runtime sends, the events that its sink
panics on by their place, and whether the entry goes on after a panic. -/
structure Trial where
  path : Bytes
  plan : List StatusCall
  panics : Nat → Option String
  guarded : Bool

/-- A sink that counts its events, and panics on those that `panics` names by their place. -/
def Sink.counting (panics : Nat → Option String) : Sink Nat := fun _ place =>
  (place + 1, panics place)

namespace Trial

/-- The trial as an attempt of an entry: the runtime is told what to send. -/
def attempt (trial : Trial) : Attempt Rehearsal where
  path := trial.path
  prepare := fun rehearsal => { rehearsal with plan := trial.plan }
  panics := trial.panics
  guarded := trial.guarded

/-- The notifications of the trial: those of the calls that bring back what the host registered. -/
def notifications (trial : Trial) : List Notification :=
  (trial.plan.filter (·.registered)).map (·.notification)

/-- What the trial shows its host, whatever came before it. -/
def report (trial : Trial) : Attempt.Report :=
  match checkPath trial.path with
  | .error error => ⟨[], .failed error⟩
  | .ok _ =>
      ⟨handed (.counting trial.panics) 0 trial.notifications,
        ((Delivery.fresh 0).receiveAll (.counting trial.panics) trial.notifications).finish⟩

/-- What the runtime sees of the trial. -/
def sightings (handle : Handle) (trial : Trial) : List Sighting :=
  match checkPath trial.path with
  | .error _ => []
  | .ok path => [.openSession handle path]

end Trial

/-- The journal of a host takes down the events that its sink is handed. -/
theorem Journal.feed_sink (panics : Nat → Option String) (journal : Journal ω)
    (events : List Event) :
    let feeding := (Sink.counting panics).feed journal.events.length events
    (Journal.sink panics).feed journal events
      = ⟨feeding.handed, { journal with events := journal.events ++ feeding.handed },
          feeding.panic⟩ := by
  induction events generalizing journal with
  | nil => simp [Sink.feed]
  | cons event rest ih =>
      cases panic : panics journal.events.length with
      | some text =>
          have watched : (Journal.sink panics event journal).2 = some text := panic
          have counted : (Sink.counting panics event journal.events.length).2 = some text := panic
          rw [Sink.feed_cons_of_panic watched, Sink.feed_cons_of_panic counted]
          rfl
      | none =>
          have watched : (Journal.sink panics event journal).2 = none := panic
          have counted : (Sink.counting panics event journal.events.length).2 = none := panic
          rw [Sink.feed_cons_of_calm watched, Sink.feed_cons_of_calm counted, ih]
          simp [Journal.sink, Sink.counting, Feeding.prepend]

/-- Carrying out a list of messages is receiving them in order. -/
theorem Script.run_sendAll {μ ω σ α : Type} (view : σ → ω) (receive : μ → σ → σ)
    (messages : List μ) (result : α) (state : σ) :
    (sendAll messages result).run view receive state
      = (messages.foldl (fun state message => receive message state) state, result) := by
  induction messages generalizing state with
  | nil => rfl
  | cons message messages ih => exact ih (receive message state)

/-- An open depends on its trial only. -/
theorem openSession_trial (startup : Startup) (handle : Handle) (trial : Trial)
    {journal : Journal ω} (quiet : journal.events = []) (seen : List Sighting) :
    openSession Journal.around (.rehearsed startup) handle trial.path (Journal.sink trial.panics)
        (journal, ⟨seen, trial.plan⟩)
      = (({ journal with events := trial.report.events },
            ⟨seen ++ trial.sightings handle, trial.plan⟩), trial.report.outcome) := by
  cases checked : checkPath trial.path with
  | error error =>
      simp only [openSession, Trial.report, Trial.sightings, checked, List.append_nil, ← quiet]
  | ok path =>
      obtain rfl := eq_of_checkPath checked
      obtain ⟨-, -, whole⟩ := checkPath_eq_ok_iff.mp checked
      have going : (Delivery.fresh journal).halt = none := rfl
      have fed := Journal.feed_sink trial.panics journal (survey .idle trial.notifications).events
      simp only [quiet, List.length_nil, List.nil_append] at fed
      have host : ((Delivery.fresh journal).receiveAll (Journal.sink trial.panics)
          trial.notifications).host
          = { journal with events := handed (.counting trial.panics) 0 trial.notifications } := by
        rw [(Delivery.receiveAll_spec _ going _).1, handed_eq]
        exact congrArg Feeding.host fed
      have outcome : ((Delivery.fresh journal).receiveAll (Journal.sink trial.panics)
          trial.notifications).finish
          = ((Delivery.fresh 0).receiveAll (.counting trial.panics)
              trial.notifications).finish := by
        rw [Delivery.finish_receiveAll, Delivery.finish_receiveAll]
        simp only [fed]
      rw [Trial.notifications] at host outcome
      simp only [openSession, checked, Runtime.rehearsed, Script.run_sendAll, foldl_deliver, host,
        outcome, untilNul_terminate whole, Trial.report, Trial.sightings, Trial.notifications]

/-! ### Panics -/

/-- Notifications that stand for a run of events fall into those of its two parts. -/
theorem Accepts.of_append {stage last : Stage} {notifications : List Notification}
    {before after : List Event} (accepts : Accepts stage notifications (before ++ after) last) :
    ∃ first later middle, notifications = first ++ later ∧ Accepts stage first before middle ∧
      Accepts middle later after last := by
  induction before generalizing stage notifications with
  | nil => exact ⟨[], notifications, stage, rfl, .nil stage, accepts⟩
  | cons event before ih =>
      cases accepts with
      | cons decoded step accepts =>
          obtain ⟨first, later, middle, rfl, taken, left⟩ := ih accepts
          exact ⟨_ :: first, later, middle, rfl, .cons decoded step taken, left⟩

/-- A survey of notifications of which a first part is accepted begins with the events of that
part. -/
theorem Accepts.prefix_survey {stage last : Stage} {first : List Notification}
    {events : List Event} (accepts : Accepts stage first events last)
    (later : List Notification) :
    events <+: (survey stage (first ++ later)).events := by
  induction accepts with
  | nil stage => exact List.nil_prefix
  | cons decoded step _ ih =>
      rw [List.cons_append, survey_cons_of_ok (judge_eq_ok_iff.mpr ⟨decoded, step⟩)]
      exact (List.prefix_cons_inj _).mpr ih

/-- A counting sink gets the events up to the first whose place is named. -/
theorem Sink.feed_counting_of_panic {panics : Nat → Option String} {place : Nat}
    {before : List Event} {text : String} (calm : ∀ i < before.length, panics (place + i) = none)
    (panicked : panics (place + before.length) = some text) (event : Event) (after : List Event) :
    (Sink.counting panics).feed place (before ++ event :: after)
      = ⟨before ++ [event], place + before.length + 1, some text⟩ := by
  induction before generalizing place with
  | nil =>
      have counted : (Sink.counting panics event place).2 = some text := panicked
      exact feed_cons_of_panic counted
  | cons first before ih =>
      have counted : (Sink.counting panics first place).2 = none := calm 0 (Nat.succ_pos _)
      have shift (i : Nat) : place + (i + 1) = place + 1 + i := by omega
      have later := @ih (place + 1)
        (fun i within => shift i ▸ calm (i + 1) (Nat.succ_lt_succ within))
        (shift before.length ▸ panicked)
      rw [List.cons_append, feed_cons_of_calm counted, List.length_cons, shift]
      exact congrArg (Feeding.prepend first) later

/-- If a counting sink panics, there is a first event whose place is named. -/
theorem Sink.exists_of_feed_counting_panic {panics : Nat → Option String} {place : Nat}
    {events : List Event} {text : String}
    (panicked : ((Sink.counting panics).feed place events).panic = some text) :
    ∃ before event after, events = before ++ event :: after ∧
      (∀ i < before.length, panics (place + i) = none) ∧
      panics (place + before.length) = some text := by
  induction events generalizing place with
  | nil => cases panicked
  | cons first rest ih =>
      cases panic : panics place with
      | some found =>
          have counted : (Sink.counting panics first place).2 = some found := panic
          rw [feed_cons_of_panic counted] at panicked
          exact ⟨[], first, rest, rfl, by simp, panic.trans panicked⟩
      | none =>
          have counted : (Sink.counting panics first place).2 = none := panic
          rw [feed_cons_of_calm counted] at panicked
          obtain ⟨before, event, after, rfl, calm, last⟩ := ih panicked
          have shift (i : Nat) : place + (i + 1) = place + 1 + i := by omega
          refine ⟨first :: before, event, after, rfl, fun i within => ?_,
            (shift before.length).symm ▸ last⟩
          cases i with
          | zero => exact panic
          | succ i => exact (shift i).symm ▸ calm i (Nat.lt_of_succ_lt_succ within)

namespace Trial

/-- The sink of the trial gets the events and panics on the last of them with the text: a first
part of the notifications stands for these events, and the sink lets all but the last pass. What
the runtime sends after that part does not matter. -/
def PanicsOn (trial : Trial) (events : List Event) (text : String) : Prop :=
  checkPath trial.path = .ok trial.path ∧
    ∃ first later stage before event, trial.notifications = first ++ later ∧
      Accepts .idle first events stage ∧ events = before ++ [event] ∧
      (∀ i < before.length, trial.panics i = none) ∧ trial.panics before.length = some text

/-- The open of a trial panics exactly if its sink does, with the text of the sink. -/
theorem report_eq_panicked_iff {trial : Trial} {events : List Event} {text : String} :
    trial.report = ⟨events, .panicked text⟩ ↔ trial.PanicsOn events text := by
  cases checked : checkPath trial.path with
  | error error => simp [report, PanicsOn, checked]
  | ok path =>
      obtain rfl := eq_of_checkPath checked
      -- A panic of the sink settles the outcome before anything that was refused does.
      have fed : trial.report = ⟨events, .panicked text⟩ ↔
          let feeding := (Sink.counting trial.panics).feed 0
            (survey .idle trial.notifications).events
          feeding.handed = events ∧ feeding.panic = some text := by
        rw [report, checked]
        simp only [Attempt.Report.mk.injEq, handed_eq, Delivery.finish_receiveAll]
        refine and_congr_right fun _ => ?_
        cases ((Sink.counting trial.panics).feed 0
          (survey .idle trial.notifications).events).panic with
        | some found => simp
        | none =>
            cases (survey .idle trial.notifications).refusal with
            | some violation => simp
            | none => cases (survey .idle trial.notifications).stage.isFinal <;> simp
      rw [fed]
      constructor
      · rintro ⟨got, panicked⟩
        obtain ⟨before, event, after, split, calm, last⟩ :=
          Sink.exists_of_feed_counting_panic panicked
        rw [split, Sink.feed_counting_of_panic calm last] at got
        simp only [Nat.zero_add] at calm last
        have accepts := survey_accepts .idle trial.notifications
        rw [split, List.append_cons] at accepts
        obtain ⟨first, later, stage, front, taken, -⟩ := accepts.of_append
        refine ⟨checked, first,
          later ++ trial.notifications.drop (before ++ [event] ++ after).length, stage, before,
          event, ?_, got ▸ taken, got.symm, calm, last⟩
        rw [← List.append_assoc, ← front, List.take_append_drop]
      · rintro ⟨-, first, later, stage, before, event, split, accepts, rfl, calm, panicked⟩
        obtain ⟨after, inside⟩ := accepts.prefix_survey later
        rw [List.append_assoc] at inside
        have found := @Sink.feed_counting_of_panic trial.panics 0 before text
          (by simpa using calm) (by simpa using panicked) event after
        rw [split, ← inside]
        exact ⟨congrArg Feeding.handed found, congrArg Feeding.panic found⟩

/-- The panic that ends an entry at the trial: that of the open if the entry does not catch it. -/
def escaping? (trial : Trial) : Option String :=
  match trial.report.outcome, trial.guarded with
  | .panicked text, false => some text
  | _, _ => none

/-- A panic ends the entry exactly if the sink panics and nothing catches it. -/
theorem escaping?_eq_some_iff {trial : Trial} {text : String} :
    trial.escaping? = some text ↔
      trial.guarded = false ∧ trial.report.outcome = .panicked text := by
  unfold escaping?
  cases trial.guarded <;> cases trial.report.outcome <;> simp

/-- A trial that the entry guards does not end it. -/
theorem escaping?_of_guarded {trial : Trial} (guarded : trial.guarded = true) :
    trial.escaping? = none := by
  unfold escaping?
  rw [guarded]
  split <;> trivial

end Trial

/-! ### Entries -/

/-- Of the trials of an entry those in `made` are made, and the entry ends so: as it was to end, or,
if a panic escapes from a trial, with that panic and without the trials that were left. -/
inductive Makes (ending : Ending) : List Trial → List Trial → Ending → Prop where
  | nil : Makes ending [] [] ending
  | escape {trial : Trial} {text : String} (escapes : trial.escaping? = some text)
      (left : List Trial) : Makes ending (trial :: left) [trial] (.panicked text)
  | cons {trial : Trial} {rest made : List Trial} {last : Ending}
      (stays : trial.escaping? = none) (makes : Makes ending rest made last) :
      Makes ending (trial :: rest) (trial :: made) last

namespace Makes

variable {ending last : Ending}

/-- It is settled which trials are made. -/
theorem total (ending : Ending) (trials : List Trial) :
    ∃ made last, Makes ending trials made last := by
  induction trials with
  | nil => exact ⟨[], ending, .nil⟩
  | cons trial rest ih =>
      cases escapes : trial.escaping? with
      | some text => exact ⟨[trial], .panicked text, .escape escapes rest⟩
      | none =>
          obtain ⟨made, last, makes⟩ := ih
          exact ⟨trial :: made, last, .cons escapes makes⟩

/-- Trials from which nothing escapes are all made, and the others after them. -/
theorem append {earlier rest made : List Trial} (stay : ∀ trial ∈ earlier, trial.escaping? = none)
    (makes : Makes ending rest made last) :
    Makes ending (earlier ++ rest) (earlier ++ made) last := by
  induction earlier with
  | nil => exact makes
  | cons trial earlier ih =>
      obtain ⟨first, others⟩ := List.forall_mem_cons.mp stay
      exact .cons first (ih others)

end Makes

/-- The runtime after trials. -/
def Rehearsal.after (handle : Handle) (made : List Trial) (rehearsal : Rehearsal) : Rehearsal :=
  made.foldl (fun rehearsal trial => ⟨rehearsal.seen ++ trial.sightings handle, trial.plan⟩)
    rehearsal

/-- The runtime has seen each of the trials. -/
theorem Rehearsal.seen_after (handle : Handle) (made : List Trial) (rehearsal : Rehearsal) :
    (rehearsal.after handle made).seen
      = rehearsal.seen ++ made.flatMap (Trial.sightings handle) := by
  induction made generalizing rehearsal with
  | nil => simp [after]
  | cons trial made ih =>
      rw [after, List.foldl_cons, ← after, ih, List.flatMap_cons, List.append_assoc]

/-- One trial of an entry: its report is closed, and the entry goes on if nothing escapes. -/
theorem attemptAll_cons_trial (startup : Startup) (handle : Handle) (ending : Ending)
    (trial : Trial) (rest : List (Attempt Rehearsal)) {journal : Journal ω}
    (quiet : journal.events = []) (rehearsal : Rehearsal) :
    let opener := openSession Journal.around (.rehearsed startup) handle
    let closed : Journal ω × Rehearsal :=
      ({ journal with reports := journal.reports ++ [trial.report] },
        rehearsal.after handle [trial])
    attemptAll opener ending (trial.attempt :: rest) (journal, rehearsal)
      = match trial.escaping? with
        | some text => (closed, .panicked text)
        | none => attemptAll opener ending rest closed := by
  intro opener closed
  have opened := openSession_trial startup handle trial quiet rehearsal.seen
  have shut : ({ journal with events := trial.report.events }.close trial.report.outcome,
      ⟨rehearsal.seen ++ trial.sightings handle, trial.plan⟩) = closed := by
    simp only [closed, Journal.close, ← quiet]
    rfl
  simp only [attemptAll, opener, Trial.attempt, opened, shut, Trial.escaping?]
  cases trial.report.outcome <;> cases trial.guarded <;> rfl

/-- An entry makes its trials, each with the report that it has by itself. -/
theorem attemptAll_trials (startup : Startup) (handle : Handle) {ending last : Ending}
    {trials made : List Trial} (makes : Makes ending trials made last) {journal : Journal ω}
    (quiet : journal.events = []) (rehearsal : Rehearsal) :
    attemptAll (openSession Journal.around (.rehearsed startup) handle) ending
        (trials.map Trial.attempt) (journal, rehearsal)
      = (({ journal with reports := journal.reports ++ made.map Trial.report },
          rehearsal.after handle made), last) := by
  induction makes generalizing journal rehearsal with
  | nil => simp [attemptAll, Rehearsal.after]
  | escape escapes left =>
      rw [List.map_cons, attemptAll_cons_trial startup handle ending _ _ quiet, escapes]
      rfl
  | @cons trial rest made last stays _ ih =>
      have later := @ih { journal with reports := journal.reports ++ [trial.report] } quiet
        (rehearsal.after handle [trial])
      rw [List.map_cons, attemptAll_cons_trial startup handle ending _ _ quiet, stays]
      refine later.trans ?_
      rw [List.append_assoc]
      rfl

end SessionHost.Session
