import SessionHost.Proofs.Command.Logbook
import SessionHost.Proofs.Console.Bars

/-!
What opening a profile leaves on the screen.

`Asks` says what the console is asked for, whatever the runtime does, and `exists_asks` that this is
all that happens to it. Main statement: `openWith_clears`.
-/

namespace SessionHost.Session

theorem verdict_ne_panicked {ending : Option Ending}
    (calm : ∀ text, ending ≠ some (.panicked text)) (calls : List InitCall) (status : Int32)
    (text : String) : verdict ending calls status ≠ .panicked text := by
  intro panicked
  unfold verdict at panicked
  split at panicked
  · exact absurd rfl (calm _)
  · cases panicked
  · split at panicked <;> cases panicked
  · cases panicked

theorem Outcome.mapError_ne_panicked {ε ε' α : Type} {outcome : Outcome ε α} {text : String}
    (calm : outcome ≠ .panicked text) (f : ε → ε') : outcome.mapError f ≠ .panicked text := by
  cases outcome with
  | panicked other =>
      intro same
      exact calm (congrArg Outcome.panicked (Outcome.panicked.inj same))
  | _ => exact nofun

end SessionHost.Session

namespace SessionHost.Command

open Session Text Protocol Console

variable {ρ : Type}

/-! ### What is asked of the console -/

section

variable (runtime : Runtime Machine ρ) (profile : Path) (appId : String) (console : Console)
  (inside : ρ)

/-- The events that the console gets when a profile is opened, and the calls that are made to it.
Nothing is asked without a profile. If the entry does not run, which is so if the id has a NUL in it
or the runtime does not call for it, the spinner is started and stopped. If it runs, it has the
console do what the events of its open call for, and then what the end of the open does. -/
inductive Asks : List Event → List Console.Call → Prop where
  | missing (missing : console.machine.files.isFile profile = false) : Asks [] []
  | refused (file : console.machine.files.isFile profile = true)
      (closed : hasNul (encode appId) = true ∨
        ∀ call ∈ (counted (begun runtime appId console inside).1.calls).head?,
          call.handle = none) :
      Asks [] (framed appId [])
  | entered {before after : List InitCall} {handle : Handle} {ready : Console × ρ}
      {events : List Event} {outcome : Outcome Session.Error Summary}
      (file : console.machine.files.isFile profile = true)
      (whole : hasNul (encode appId) = false) (early : counted before = [])
      (calls : (begun runtime appId console inside).1.calls
        = before ++ ⟨some handle, true⟩ :: after)
      (waited : ready = (underWay appId console,
        runtime.hear (refusals before) (begun runtime appId console inside).2))
      (got : handedBy Console.machine runtime handle profile.bytes Console.sink ready = events)
      (ended : (openSession Console.machine runtime handle profile.bytes Console.sink ready).2
        = outcome) :
      Asks events (framed appId (events.flatMap callsFor ++ closing console outcome))

/-- **Opening a profile is making these calls**, and it never panics. -/
theorem exists_asks :
    ∃ events calls, Asks runtime profile appId console inside events calls ∧
      (openWith runtime profile appId (console, inside)).1.1 = console.performAll calls ∧
      ∀ text, (openWith runtime profile appId (console, inside)).2 ≠ .panicked text := by
  cases file : console.machine.files.isFile profile with
  | false =>
      refine ⟨[], [], .missing file, ?_⟩
      rw [openWith_of_missing file]
      exact ⟨rfl, fun text => nofun⟩
  | true =>
      cases broken : hasNul (encode appId) with
      | true =>
          refine ⟨[], framed appId [], .refused file (.inl broken), ?_⟩
          rw [openWith_of_hasNul file broken]
          exact ⟨rfl, fun text => nofun⟩
      | false =>
          rcases closed_or_entered (begun runtime appId console inside).1.calls with
            closed | ⟨before, handle, after, calls, early⟩
          · refine ⟨[], framed appId [], .refused file (.inr closed), ?_⟩
            rw [openWith_of_refused file broken closed]
            exact ⟨rfl, fun text =>
              Outcome.mapError_ne_panicked (verdict_ne_panicked (by simp) _ _ _) _⟩
          · refine ⟨_, _, .entered file broken early calls rfl rfl rfl, ?_⟩
            rw [openWith_of_entered file broken calls early]
            exact ⟨rfl, fun text =>
              Outcome.mapError_ne_panicked (verdict_ne_panicked (by simp) _ _ _) _⟩

end

variable {runtime : Runtime Machine ρ} {profile : Path} {appId : String} {console : Console}
  {inside : ρ} {events : List Event} {calls : List Console.Call}

/-! ### The end of an open -/

/-- The end of an open puts no bar up, and begins by taking down the bar of a burst that is still
under way. -/
theorem closing_clears (handle : Handle) (ready : Console × ρ) :
    let opened := openSession Console.machine runtime handle profile.bytes Console.sink ready
    let ending := closing console opened.2 ++ [.spinnerStop]
    ∃ stage,
      Stage.History stage
        (handedBy Console.machine runtime handle profile.bytes Console.sink ready) ∧
      (∀ total text, .progressStart total text ∉ ending) ∧
      (stage.isMidBurst = true → ending.head? = some .progressFinish) := by
  intro opened ending
  obtain ⟨stage, history⟩ := exists_history_handedBy Console.machine runtime handle profile.bytes
    Console.sink ready
  have calm := (openSession_of_calm Console.machine runtime handle profile.bytes
    Console.sink_calm ready).2
  refine ⟨stage, history, fun total text => ?_, fun mid => ?_⟩
  · simp only [ending]
    cases opened.2 <;> simp [closing]
  · simp only [ending]
    cases ended : opened.2 with
    | failed error => rfl
    | panicked text => exact absurd ended (calm text)
    | ok summary =>
        -- After a whole word there is no burst under way.
        obtain ⟨loads, counts, whole, -⟩ := exists_completed_of_openSession Console.sink_calm ended
        rw [whole] at history
        have last := history.advanceAll.symm.trans (Stage.History.loaded counts).advanceAll
        rw [Except.ok.inj last] at mid
        cases mid

/-- Unless it was a whole word that the console got, the open ended in an error. -/
theorem exists_failed_of_loadPlugin {handle : Handle} {ready : Console × ρ} {load : PluginLoad}
    (cut : (handedBy Console.machine runtime handle profile.bytes Console.sink ready).getLast?
      = some (.loadPlugin load)) :
    ∃ error, (openSession Console.machine runtime handle profile.bytes Console.sink ready).2
      = .failed error := by
  have calm := (openSession_of_calm Console.machine runtime handle profile.bytes
    Console.sink_calm ready).2
  cases ended : (openSession Console.machine runtime handle profile.bytes Console.sink ready).2 with
  | failed error => exact ⟨error, rfl⟩
  | panicked text => exact absurd ended (calm text)
  | ok summary =>
      obtain ⟨loads, -, whole, -⟩ := exists_completed_of_openSession Console.sink_calm ended
      rw [whole] at cut
      simp [completed] at cut

/-! ### Spinners and bars -/

/-- What is asked of the console before the runtime is started. -/
def firstCalls (appId : String) : List Console.Call :=
  [.debug ("Application id: " ++ appId), .spinnerStart]

/-- When a bar is up during calls of which the last take it down. -/
theorem barUp_framed {stage : Stage} (history : Stage.History stage events)
    {closing : List Console.Call}
    (others : ∀ total text,
      Console.Call.progressStart total text ∉ closing ++ [Console.Call.spinnerStop])
    (clears : stage.isMidBurst = true →
      (closing ++ [Console.Call.spinnerStop]).head? = some .progressFinish) :
    let calls := framed appId (events.flatMap callsFor ++ closing)
    barUp false calls = false ∧
      ∀ before after, calls = before ++ after →
        (barUp false before = true ↔
          ∃ asked, before = firstCalls appId ++ asked ∧ BreaksOff events asked) := by
  intro calls
  have parts : calls = firstCalls appId
      ++ (events.flatMap callsFor ++ (closing ++ [Console.Call.spinnerStop])) := by
    simp [calls, framed, firstCalls]
  have moved (asked : List Console.Call) :
      barUp false (firstCalls appId ++ asked) = barUp false asked := rfl
  constructor
  · rw [parts, moved]
    exact barUp_append_ending history others clears (List.append_nil _).symm (by simp)
  · intro before after split
    rw [parts] at split
    rcases List.append_eq_append_iff.mp split with ⟨asked, rfl, inside⟩ | ⟨rest, early, -⟩
    · rw [moved, barUp_eq_true_iff_of_ending history others clears inside]
      simp only [List.append_cancel_left_eq, exists_eq_left']
    · have still : barUp false before = false := by
        refine barUp_of_notMem fun total text member => ?_
        have found : .progressStart total text ∈ firstCalls appId :=
          early ▸ List.mem_append_left rest member
        simp [firstCalls] at found
      rw [still]
      simp only [Bool.false_eq_true, false_iff]
      rintro ⟨asked, rfl, breaks⟩
      rw [List.append_assoc, List.self_eq_append_right, List.append_eq_nil_iff] at early
      exact breaks.within.1 early.1

/-- When a bar is up during the calls that are made when a profile is opened. -/
theorem Asks.barUp (asks : Asks runtime profile appId console inside events calls) :
    Console.barUp false calls = false ∧
      ∀ before after, calls = before ++ after →
        (Console.barUp false before = true ↔
          ∃ asked, before = firstCalls appId ++ asked ∧ BreaksOff events asked) := by
  cases asks with
  | missing missing =>
      refine ⟨rfl, fun before after split => ?_⟩
      rw [(List.append_eq_nil_iff.mp split.symm).1]
      simp [Console.barUp, firstCalls]
  | refused file closed =>
      have others (total : UInt64) (text : String) :
          Console.Call.progressStart total text ∉ [] ++ [Console.Call.spinnerStop] := by simp
      have settled : Stage.idle.isMidBurst ≠ true := Bool.false_ne_true
      exact barUp_framed .idle others fun mid => absurd mid settled
  | @entered before after handle ready events outcome file whole early calls waited got ended =>
      obtain ⟨stage, history, others, clears⟩ :=
        @closing_clears _ runtime profile console handle ready
      rw [got] at history
      rw [ended] at others clears
      exact barUp_framed history others clears

/-- So a bar is up between two events, or after the last, exactly if a burst is under way. -/
theorem Asks.barUp_between (asks : Asks runtime profile appId console inside events calls)
    {earlier later : List Event} (split : events = earlier ++ later) :
    Console.barUp false (firstCalls appId ++ earlier.flatMap callsFor) = true ↔
      ∃ load, earlier.getLast? = some (.loadPlugin load) ∧ load.isLast = false := by
  obtain ⟨stage, history⟩ : ∃ stage, Stage.History stage events := by
    cases asks with
    | missing missing => exact ⟨_, .idle⟩
    | refused file closed => exact ⟨_, .idle⟩
    | entered file whole early calls waited got ended =>
        exact got ▸ exists_history_handedBy Console.machine runtime _ profile.bytes Console.sink _
  obtain ⟨reached, run, -⟩ :=
    Stage.advanceAll_append_eq_ok_iff.mp (split ▸ history.advanceAll)
  have led := Stage.History.of_advanceAll run
  have moved : Console.barUp false (firstCalls appId ++ earlier.flatMap callsFor)
      = Console.barUp false (earlier.flatMap callsFor) := rfl
  rw [moved, barUp_flatMap led]
  exact led.isMidBurst_eq_true_iff

/-- Once the calls are made no spinner turns, if none did before. -/
theorem Asks.spinner (asks : Asks runtime profile appId console inside events calls)
    (still : console.spinner = false) : (console.performAll calls).spinner = false := by
  cases asks with
  | missing missing => exact still
  | refused file closed =>
      rw [performAll_framed, perform_eq]
      rfl
  | entered file whole early calls waited got ended =>
      rw [performAll_framed, perform_eq]
      rfl

/-- If a plugin was the last event, the open has ended in an error. -/
theorem Asks.eq_of_loadPlugin (asks : Asks runtime profile appId console inside events calls)
    {load : PluginLoad} (cut : events.getLast? = some (.loadPlugin load)) :
    ∃ error : Session.Error, calls
      = firstCalls appId ++ events.flatMap callsFor
          ++ [.progressFinish, .spinnerError error.message, .spinnerStop] := by
  cases asks with
  | missing missing => cases cut
  | refused file closed => cases cut
  | entered file whole early calls waited got ended =>
      subst got ended
      obtain ⟨error, failed⟩ := exists_failed_of_loadPlugin cut
      refine ⟨error, ?_⟩
      rw [failed]
      simp [framed, firstCalls, closing]

/-- **Opening a profile leaves no spinner and no bar.** Let none be there before. Whatever the
runtime does, however much is to be shown and however the command comes back, none is there after
it.

During the calls to the console a bar is up only where bars are shown. There it is up between two
events exactly if the one before was a plugin other than the last of its burst, and in the calls for
an event exactly if this is a plugin: from the call that puts the bar up for the first of a burst to
the one that takes it down for the last. If the burst was cut short, so that a plugin was the last
event, then the open has ended in an error, and what is asked next is to take the bar down. -/
theorem openWith_clears (runtime : Runtime Machine ρ) (profile : Path) (appId : String)
    {console : Console} (inside : ρ) (still : console.spinner = false)
    (clear : console.progressBar = false) :
    let result := openWith runtime profile appId (console, inside)
    result.1.1.spinner = false ∧ result.1.1.progressBar = false ∧
      (∀ text, result.2 ≠ .panicked text) ∧
      ∃ events calls, Asks runtime profile appId console inside events calls ∧
        result.1.1 = console.performAll calls ∧
        (∀ earlier later, events = earlier ++ later →
          ((console.performAll (firstCalls appId ++ earlier.flatMap callsFor)).progressBar = true ↔
            console.isAnimated = true ∧
              ∃ load, earlier.getLast? = some (.loadPlugin load) ∧ load.isLast = false)) ∧
        (∀ before after, calls = before ++ after →
          ((console.performAll before).progressBar = true ↔
            console.isAnimated = true ∧
              ∃ asked, before = firstCalls appId ++ asked ∧ BreaksOff events asked)) ∧
        ∀ load, events.getLast? = some (.loadPlugin load) →
          ∃ error : Session.Error, calls
            = firstCalls appId ++ events.flatMap callsFor
                ++ [.progressFinish, .spinnerError error.message, .spinnerStop] := by
  intro result
  obtain ⟨events, calls, asks, same, calm⟩ := exists_asks runtime profile appId console inside
  have shown (asked : List Console.Call) : (console.performAll asked).progressBar
      = (console.isAnimated && barUp false asked) :=
    Console.progressBar_performAll (clear.trans (Bool.and_false _).symm) asked
  obtain ⟨down, during⟩ := asks.barUp
  refine ⟨?_, ?_, calm, events, calls, asks, same, fun earlier later split => ?_,
    fun before after split => ?_, fun load => asks.eq_of_loadPlugin⟩
  · rw [same]
    exact asks.spinner still
  · rw [same, shown, down, Bool.and_false]
  · rw [shown, Bool.and_eq_true, asks.barUp_between split]
  · rw [shown, Bool.and_eq_true, during before after split]

/-- A runtime reports the first of two plugins and then that the session is loaded. -/
theorem openWith_clears_cut_burst :
    let files : FileSystem := { cwd := [], nodes := [([encode "game.toml"], .file [])] }
    let console := Console.fresh ⟨⟨none, none, none, none⟩, files⟩ "noon" false
    let alpha : PluginPayload := ⟨some (encode "alpha"), 5, 0, 2⟩
    let report : List Notification :=
      [⟨0, none⟩, ⟨1, none⟩, ⟨2, none⟩, ⟨3, some alpha⟩, ⟨5, none⟩]
    let runtime : Runtime Machine Rehearsal :=
      .rehearsed ⟨[⟨some rehearsedHandle, true⟩], .first⟩
    let result := openWith runtime ⟨encode "game.toml"⟩ "io.demo"
      (console, ⟨[], report.map (⟨·, true⟩)⟩)
    let seen : List Event :=
      [.loadSettings, .loadProfile, .createRuntime, .loadPlugin ⟨encode "alpha", 0, 2⟩]
    let asked := firstCalls "io.demo" ++ seen.flatMap callsFor
    console.spinner = false ∧ console.progressBar = false ∧ result.2 = .ok 1 ∧
      (∃ rest, result.1.1 = console.performAll (asked ++ .progressFinish :: rest)) ∧
      (console.performAll asked).progressBar = true ∧
      result.1.1.spinner = false ∧ result.1.1.progressBar = false := by
  intro files console alpha report runtime result seen asked
  let profile : Path := ⟨encode "game.toml"⟩
  let rehearsal : Rehearsal := ⟨[], report.map (⟨·, true⟩)⟩
  obtain ⟨spinner, bar, -, events, calls, asks, same, between, -, cut⟩ :=
    @openWith_clears _ runtime profile "io.demo" console rehearsal rfl rfl
  have file : console.machine.files.isFile profile = true := by decide +kernel
  have whole : hasNul (encode "io.demo") = false := by decide
  have happened : events = seen := by
    cases asks with
    | missing missing => exact absurd (file.symm.trans missing) (by decide)
    | refused _ closed =>
        rcases closed with broken | closed
        · exact absurd (whole.symm.trans broken) (by decide)
        · cases closed ⟨some rehearsedHandle, true⟩ rfl
    | @entered before _ handle _ _ _ _ _ early split waited got ended =>
        have one : [⟨some rehearsedHandle, true⟩] = before ++ ⟨some handle, true⟩ :: _ := split
        obtain ⟨rfl, rfl⟩ : before = [] ∧ handle = rehearsedHandle := by
          cases before with
          | nil => exact ⟨rfl, (Option.some.inj (InitCall.mk.inj (List.cons.inj one).1).1).symm⟩
          | cons call rest => simp at one
        rw [waited] at got
        refine got.symm.trans ?_
        decide +kernel
  subst happened
  obtain ⟨error, made⟩ := cut _ rfl
  refine ⟨rfl, rfl, by decide +kernel, ⟨_, same.trans (congrArg console.performAll made)⟩,
    (between seen [] rfl).mpr ⟨rfl, _, rfl, by decide⟩, spinner, bar⟩

end SessionHost.Command
