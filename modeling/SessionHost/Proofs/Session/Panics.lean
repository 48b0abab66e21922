import SessionHost.Proofs.Session.Starting
import SessionHost.Proofs.Session.Trials
import SessionHost.Proofs.Text.Utf8

/-!
Panics on their way through a start.

An entry makes trials inside a runtime that follows a startup. `Played` says what host, runtime and
caller saw of such a start, and `start_carries_panics` what becomes of a panic: it stays on the
host's side of both boundaries, and it arrives where the host could catch it.
-/

namespace SessionHost.Session

open Text Protocol

variable {ω : Type}

/-! ### Starts with trials -/

/-- Starts a runtime that follows the startup, with an entry that makes the trials and then ends as
given. -/
def play (around : ω) (id : String) (startup : Startup) (trials : List Trial) (ending : Ending) :
    (Journal ω × Rehearsal) × Bridge × Outcome Error Int32 :=
  (Bridge.fresh id).start Journal.around (.rehearsed startup)
    (.ofAttempts (trials.map Trial.attempt) ending) (.fresh around, ⟨[], []⟩)

/-- What was seen of a start whose entry ran in the call between `before` and `after`: it made the
trials, its call returned the value to the runtime, all other calls were turned away, and the start
came back with the outcome. -/
structure Played (id : String) (before : List InitCall) (handle : Handle) (after : List InitCall)
    (made : List Trial) (value : Int32) (outcome : Outcome Error Int32)
    (result : (Journal ω × Rehearsal) × Bridge × Outcome Error Int32) : Prop where
  entered : result.1.1.entered = 1
  reports : result.1.1.reports = made.map Trial.report
  seen : result.1.2.seen
    = .start (encode id) :: (refusals before).map .init ++ made.flatMap (Trial.sightings handle)
        ++ .init value :: (refusals after).map .init
  outcome : result.2.2 = outcome

/-- What the runtime was told by the calls of the init callback that returned to it. -/
def answers (seen : List Sighting) : List Int32 :=
  seen.filterMap fun
    | .init value => some value
    | _ => none

theorem answers_map_init (values : List Int32) : answers (values.map .init) = values := by
  induction values with
  | nil => rfl
  | cons value values ih => exact congrArg (value :: ·) ih

theorem answers_append (first later : List Sighting) :
    answers (first ++ later) = answers first ++ answers later :=
  List.filterMap_append

/-- An open tells the runtime nothing about calls of the init callback. -/
theorem answers_sightings (handle : Handle) (made : List Trial) :
    answers (made.flatMap (Trial.sightings handle)) = [] := by
  induction made with
  | nil => rfl
  | cons trial made ih =>
      rw [List.flatMap_cons, answers_append, ih, List.append_nil, Trial.sightings]
      cases checkPath trial.path <;> rfl

/-- A rehearsed runtime takes down what its calls return. -/
theorem hear_rehearsed (startup : Startup) (values : List Int32) (rehearsal : Rehearsal) :
    (Runtime.rehearsed startup : Runtime ω Rehearsal).hear values rehearsal
      = { rehearsal with seen := rehearsal.seen ++ values.map .init } := by
  induction values generalizing rehearsal with
  | nil => simp [Runtime.hear]
  | cons value values ih =>
      rw [Runtime.hear, List.foldl_cons, ← Runtime.hear, ih]
      simp [Runtime.rehearsed]

/-- The host comes to its verdict once the entry has ended and the later calls are counted. -/
theorem Launch.finish_eq_verdict {σ ρ : Type} (state : σ × ρ) (handle : Handle)
    (after : List InitCall) (last : Ending) (values : List Int32) (status : Int32) :
    (Launch.mk state (1 + (counted after).length)
        (if counted after = [] then none else some .duplicateInit) last.panic? values).finish status
      = verdict (some last) (⟨some handle, true⟩ :: counted after) status := by
  cases last with
  | returned code => cases counted after <;> rfl
  | panicked text => rfl

section

variable {id : String} (whole : hasNul (encode id) = false) (around : ω)

include whole

/-- The runtime reads the id off its buffer and makes its calls. -/
theorem play_eq (startup : Startup) (trials : List Trial) (ending : Ending) :
    let launch := startup.calls.foldl
      (Launch.init Journal.around (.rehearsed startup)
        (.ofAttempts (trials.map Trial.attempt) ending))
      (.fresh (.fresh around, ⟨[.start (encode id)], []⟩))
    play around id startup trials ending
      = (launch.state, ⟨id, true⟩, launch.finish (startup.returns.status launch.values)) := by
  have begins : (Runtime.rehearsed startup : Runtime ω Rehearsal).start around
      (terminate (encode id)) ⟨[], []⟩ = (startup, ⟨[.start (encode id)], []⟩) := by
    simp [Runtime.rehearsed, untilNul_terminate whole]
  refine (Bridge.start_of_whole Journal.around _ _ whole _).trans ?_
  simp only [Journal.fresh, begins]

/-- A start whose first call that counts has a handle makes the trials of its entry, as far as no
panic escapes from one, and the host makes of it what the end of the entry says. -/
theorem played_of_makes {before : List InitCall} (early : counted before = []) (handle : Handle)
    (after : List InitCall) (returns : ReturnRule) {ending last : Ending}
    {trials made : List Trial} (makes : Makes ending trials made last) :
    let calls := before ++ ⟨some handle, true⟩ :: after
    Played id before handle after made last.value
      (verdict (some last) (counted calls)
        (returns.status (refusals before ++ last.value :: refusals after)))
      (play around id ⟨calls, returns⟩ trials ending) := by
  intro calls
  let runtime : Runtime ω Rehearsal := .rehearsed ⟨calls, returns⟩
  let host : Journal ω := ⟨around, 1, made.map Trial.report, []⟩
  -- The calls before the entry, the entry, and the calls after it act on the runtime in this order.
  let begun : Rehearsal := ⟨.start (encode id) :: (refusals before).map .init, []⟩
  have waited : runtime.hear (refusals before) ⟨[.start (encode id)], []⟩ = begun :=
    hear_rehearsed _ _ _
  have ran : Entry.ofAttempts (trials.map Trial.attempt) ending
      (openSession Journal.around runtime handle) (.fresh around, begun)
      = ((host, begun.after handle made), last) :=
    attemptAll_trials ⟨calls, returns⟩ handle makes rfl begun
  rw [play_eq whole around ⟨calls, returns⟩ trials ending,
    Launch.foldl_init_fresh_of_handle Journal.around runtime _ early handle after]
  simp only [waited, ran, counted_append_cons early, calls]
  refine ⟨rfl, rfl, ?_, Launch.finish_eq_verdict _ handle after last _ _⟩
  simp [runtime, hear_rehearsed, Rehearsal.seen_after, begun]

/-- Every call of the init callback returns to the runtime, whatever the entry comes to. -/
theorem length_answers_play (startup : Startup) (trials : List Trial) (ending : Ending) :
    (answers (play around id startup trials ending).1.2.seen).length = startup.calls.length := by
  obtain ⟨calls, returns⟩ := startup
  have told (values : List Int32) : answers (.start (encode id) :: values.map .init) = values :=
    answers_map_init values
  rcases counted_eq_nil_or_first calls with nothing | ⟨before, _ | handle, after, rfl, early⟩
  · rw [play_eq whole, Launch.foldl_init_fresh_of_none _ _ _ nothing, hear_rehearsed]
    exact (congrArg List.length (told _)).trans (List.length_map _)
  · rw [play_eq whole, Launch.foldl_init_fresh_of_null _ _ _ early, hear_rehearsed]
    exact (congrArg List.length (told _)).trans (List.length_map _)
  · obtain ⟨made, last, makes⟩ := Makes.total ending trials
    have heard (value : Int32) (values : List Int32) :
        answers (.init value :: values.map .init) = value :: values :=
      congrArg (value :: ·) (answers_map_init values)
    rw [(played_of_makes whole around early handle after returns makes).seen, answers_append,
      answers_append, answers_sightings, told, heard]
    simp [refusals]

end

/-! ### Panics -/

/-- A runtime gets through all its status calls, whatever the sink does. -/
theorem statusCalls_rehearsed {σ : Type} (view : σ → ω) (startup : Startup) (handle : Handle)
    {path : Bytes} (admitted : checkPath path = .ok path) (sink : Sink σ) (host : σ)
    (rehearsal : Rehearsal) :
    statusCalls view (.rehearsed startup) handle path sink (host, rehearsal) = rehearsal.plan := by
  rw [statusCalls, admitted]
  exact Script.sent_sendAll _ _ _ _ _

/-- **Panics stay on the host's side, and none is lost or taken for another.** Let a runtime follow
a startup whose first init call that counts has a handle, and let the entry make any trials and
then end in any way.

All init calls and all status calls return to the runtime. An open panics exactly if its sink does,
with the text of the sink, and its events are those up to the panic. If the entry does not catch
the panic, no other trial is made, the init call returns the refusal to the runtime, and the start
panics with the same text, also if other init calls followed; it is the same for a panic of the
entry itself. If the entry guards a trial, the trials after it are made as if that one were not
there, and the start ends in the same way. -/
theorem start_carries_panics {id : String} (whole : hasNul (encode id) = false) (around : ω)
    {before : List InitCall} (early : counted before = []) (handle : Handle)
    (after : List InitCall) (returns : ReturnRule) :
    let start := play around id ⟨before ++ ⟨some handle, true⟩ :: after, returns⟩
    (∀ startup trials ending,
      (answers (play around id startup trials ending).1.2.seen).length = startup.calls.length) ∧
    (∀ (startup : Startup) (trial : Trial) (journal : Journal ω) (seen : List Sighting),
      checkPath trial.path = .ok trial.path →
      statusCalls Journal.around (.rehearsed startup) handle trial.path (Journal.sink trial.panics)
        (journal, ⟨seen, trial.plan⟩) = trial.plan) ∧
    (∀ (trial : Trial) events text,
      trial.report = ⟨events, .panicked text⟩ ↔ trial.PanicsOn events text) ∧
    (∀ earlier trial later ending text, (∀ other ∈ earlier, other.escaping? = none) →
      trial.guarded = false → trial.report.outcome = .panicked text →
      Played id before handle after (earlier ++ [trial]) initRefused (.panicked text)
        (start (earlier ++ trial :: later) ending)) ∧
    (∀ trials text, (∀ trial ∈ trials, trial.escaping? = none) →
      Played id before handle after trials initRefused (.panicked text)
        (start trials (.panicked text))) ∧
    (∀ earlier trial later ending, (∀ other ∈ earlier, other.escaping? = none) →
      trial.guarded = true →
      ∃ made value outcome,
        Played id before handle after (earlier ++ trial :: made) value outcome
          (start (earlier ++ trial :: later) ending) ∧
        Played id before handle after (earlier ++ made) value outcome
          (start (earlier ++ later) ending)) := by
  intro start
  have played {ending last : Ending} {trials made : List Trial}
      (makes : Makes ending trials made last) :=
    played_of_makes whole around early handle after returns makes
  refine ⟨length_answers_play whole around, fun startup trial journal seen admitted => ?_,
    fun trial events text => Trial.report_eq_panicked_iff, ?_, ?_, ?_⟩
  · exact statusCalls_rehearsed Journal.around startup handle admitted _ journal ⟨seen, trial.plan⟩
  · intro earlier trial later ending text stay unguarded panicked
    have escapes := Trial.escaping?_eq_some_iff.mpr ⟨unguarded, panicked⟩
    exact played ((Makes.escape escapes later).append stay)
  · intro trials text stay
    have makes : Makes (.panicked text) (trials ++ []) (trials ++ []) (.panicked text) :=
      Makes.nil.append stay
    rw [List.append_nil] at makes
    exact played makes
  · intro earlier trial later ending stay guarded
    obtain ⟨made, last, makes⟩ := Makes.total ending later
    have stays := Trial.escaping?_of_guarded guarded
    exact ⟨made, _, _, played ((Makes.cons stays makes).append stay), played (makes.append stay)⟩

/-- An entry catches a first panic, which was followed by a notification that means nothing, and not
a second. The runtime calls before the entry without what the host registered, and once more after
it. -/
theorem start_carries_panics_second_uncaught :
    let handle : Handle := rehearsedHandle
    let calls : List InitCall := [⟨none, false⟩, ⟨some handle, true⟩, ⟨some handle, true⟩]
    let path := encode "game.toml"
    let settings : StatusCall := ⟨⟨0, none⟩, true⟩
    let profile : StatusCall := ⟨⟨1, none⟩, true⟩
    let caught : Trial :=
      ⟨path, [settings, profile, ⟨⟨9, none⟩, true⟩],
        fun place => if place = 1 then some "first" else none, true⟩
    let uncaught : Trial := ⟨path, [settings, profile], fun _ => some "second", false⟩
    let result := play () "app" ⟨calls, .always 0⟩ [caught, uncaught, caught] (.returned 0)
    hasNul (encode "app") = false ∧ counted (calls.take 1) = [] ∧
      result.1.1.reports
        = [⟨[.loadSettings, .loadProfile], .panicked "first"⟩,
            ⟨[.loadSettings], .panicked "second"⟩] ∧
      result.1.2.seen
        = [.start (encode "app"), .init (-1), .openSession handle path, .openSession handle path,
            .init (-1), .init (-1)] ∧
      result.2.2 = .panicked "second" := by
  intro handle calls path settings profile caught uncaught result
  have whole : hasNul (encode "app") = false := by decide
  have admitted : checkPath path = .ok path :=
    checkPath_eq_ok_iff.mpr ⟨⟨_, decode?_encode _⟩, by decide, by decide⟩
  have early : counted (calls.take 1) = [] := rfl
  obtain ⟨-, -, panics, escapes, -, -⟩ :=
    start_carries_panics whole () early handle (calls.drop 2) (.always 0)
  have two : Accepts .idle [settings.notification, profile.notification]
      [.loadSettings, .loadProfile] .loadingProfile := accepts_iff.mpr ⟨by decide, by decide⟩
  have one : Accepts .idle [settings.notification] [.loadSettings] .loadingSettings :=
    accepts_iff.mpr ⟨by decide, by decide⟩
  have first : caught.report = ⟨[.loadSettings, .loadProfile], .panicked "first"⟩ :=
    (panics caught _ _).mpr ⟨admitted, _, _, _, [.loadSettings], .loadProfile, rfl, two, rfl,
      by decide, rfl⟩
  have second : uncaught.report = ⟨[.loadSettings], .panicked "second"⟩ :=
    (panics uncaught _ _).mpr ⟨admitted, _, _, _, [], .loadSettings, rfl, one, rfl, by decide, rfl⟩
  have played := escapes [caught] uncaught [caught] (.returned 0) "second"
    (by simp [Trial.escaping?_of_guarded, caught]) rfl (congrArg Attempt.Report.outcome second)
  refine ⟨whole, early, ?_, ?_, played.outcome⟩
  · rw [← first, ← second]
    exact played.reports
  · have sighted : [caught, uncaught].flatMap (Trial.sightings handle)
        = [.openSession handle path, .openSession handle path] := by
      simp [Trial.sightings, caught, uncaught, admitted]
    refine played.seen.trans ?_
    rw [List.singleton_append, sighted]
    rfl

end SessionHost.Session
