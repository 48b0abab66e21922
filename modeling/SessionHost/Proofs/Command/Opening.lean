import SessionHost.Command.Program
import SessionHost.Proofs.Console.Calls
import SessionHost.Proofs.Engine.Agreement
import SessionHost.Proofs.Engine.Answers
import SessionHost.Proofs.Session.Diagnosis

/-!
What opening a profile ends with.

`transcript` lists what is asked of the console, and `openProfile_eq` says that opening a profile is
this and nothing else, with the `verdict` that the command comes back with. `openProfile_exits`
sorts the verdicts by what is wrong.
-/

namespace SessionHost

/-! ### Application ids -/

namespace Config

/-- The id that is used is never blank. -/
theorem allBlank_applicationId (config : Config) : Text.allBlank config.applicationId = false := by
  have standard : Text.allBlank defaultAppId = false := by decide
  unfold applicationId
  cases config.appId with
  | none => exact standard
  | some id =>
      cases blank : Text.allBlank id with
      | true => simpa [blank] using standard
      | false => simp [blank]

end Config

namespace Command

open Session Text Engine Protocol

/-! ### The course of the command -/

/-- What is asked of the console once the open is over. -/
def closing (console : Console) : Outcome Session.Error Summary → List Console.Call
  | .ok summary => [.spinnerSuccess (loadedMessage console summary)]
  | .failed error => [.progressFinish, .spinnerError error.message]
  | .panicked _ => []

/-- The code that the entry returns for an open that ended like this. -/
def exitCode : Outcome Session.Error Summary → Int32
  | .ok _ => 0
  | _ => 1

/-- The entry opens the profile and closes with the code for how that went. -/
theorem entry_eq {ρ : Type} (profile : Path) {opener : Opener Console ρ} {state : Console × ρ}
    (calm : ∀ text, (opener profile.bytes Console.sink state).2 ≠ .panicked text) :
    let opened := opener profile.bytes Console.sink state
    entry profile opener state
      = ((opened.1.1.performAll (closing opened.1.1 opened.2), opened.1.2),
          .returned (exitCode opened.2)) := by
  unfold entry
  generalize opener profile.bytes Console.sink state = opened at calm ⊢
  obtain ⟨⟨console, inside⟩, outcome⟩ := opened
  cases outcome with
  | ok summary => rfl
  | failed error => rfl
  | panicked text => exact absurd rfl (calm text)

theorem closing_eq_of_color {console other : Console} (same : console.color = other.color) :
    closing console = closing other := by
  funext outcome
  cases outcome with
  | ok summary => simp only [closing, loadedMessage, Console.paint, same]
  | _ => rfl

/-- With any runtime the entry has the console do what the events of the open call for, and then
what its end does. -/
theorem entry_openSession {ρ : Type} (runtime : Runtime Machine ρ) (handle : Handle)
    (profile : Path) (state : Console × ρ) :
    let opened := openSession Console.machine runtime handle profile.bytes Console.sink state
    let events := handedBy Console.machine runtime handle profile.bytes Console.sink state
    entry profile (openSession Console.machine runtime handle) state
      = ((state.1.performAll (events.flatMap Console.callsFor ++ closing state.1 opened.2),
            opened.1.2),
          .returned (exitCode opened.2)) := by
  intro opened events
  obtain ⟨host, calm⟩ := openSession_of_calm Console.machine runtime handle profile.bytes
    Console.sink_calm state
  have shown : opened.1.1 = state.1.performAll (events.flatMap Console.callsFor) :=
    host.trans (Console.hostAfter_sink _ _)
  have colors : opened.1.1.color = state.1.color := by
    rw [shown, Console.color_performAll]
  refine (entry_eq profile calm).trans ?_
  rw [closing_eq_of_color colors, shown, Console.performAll_append]

section

variable (profile : Path) (appId : String) (console : Console)

/-- The console when the engine is started. -/
def underWay : Console :=
  console.performAll [.debug ("Application id: " ++ appId), .spinnerStart]

/-- The application that the engine begins with. -/
def newApplication : Application := .fresh appId (startConfig (underWay appId console).machine)

/-- The events of the open that the console gets. -/
def shownEvents : List Event :=
  handedBy Console.machine Engine.runtime theHandle profile.bytes Console.sink
    (underWay appId console, some (newApplication appId console))

/-- How the open ends. -/
def openOutcome : Outcome Session.Error Summary :=
  (openSession Console.machine Engine.runtime theHandle profile.bytes Console.sink
    (underWay appId console, some (newApplication appId console))).2

/-- All that is asked of the console: to name the id and start the spinner, then what the events
call for and the message about their end, if the engine begins, and last to stop the spinner.
Without a profile nothing is asked. -/
def transcript : List Console.Call :=
  if console.machine.files.isFile profile then
    [.debug ("Application id: " ++ appId), .spinnerStart]
      ++ (if hasNul (encode appId) || allBlank appId then []
        else (shownEvents profile appId console).flatMap Console.callsFor
          ++ closing console (openOutcome profile appId console))
      ++ [.spinnerStop]
  else []

/-- What the command comes back with. -/
def verdict : Outcome Error Int32 :=
  if console.machine.files.isFile profile then
    if hasNul (encode appId) then .failed (.session (Bridge.appIdHasNul appId))
    else if allBlank appId then .failed (.session (.initialization invalidAppId))
    else .ok (exitCode (openOutcome profile appId console))
  else .failed (.profileNotFound profile)

/-- With an id that begins an application the console does what the open calls for. -/
theorem start_entry (whole : hasNul (encode appId) = false) (text : allBlank appId = false) :
    ∃ left, (Bridge.fresh appId).start Console.machine Engine.runtime (entry profile)
        (underWay appId console, none)
      = (((underWay appId console).performAll
            ((shownEvents profile appId console).flatMap Console.callsFor
              ++ closing console (openOutcome profile appId console)), left),
          ⟨appId, true⟩, .ok (exitCode (openOutcome profile appId console))) := by
  let state := (underWay appId console, some (newApplication appId console))
  let opened := openSession Console.machine Engine.runtime theHandle profile.bytes Console.sink state
  have entered := entry_openSession Engine.runtime theHandle profile state
  have colors : closing (underWay appId console) = closing console :=
    closing_eq_of_color (Console.color_performAll console _)
  refine ⟨opened.1.2, (start_runtime Console.machine text whole _ _ none).trans ?_⟩
  rw [← colors]
  exact congrArg (fun result => (result.1, (⟨appId, true⟩ : Bridge), ofEnding result.2)) entered

/-- **Opening a profile** does what the transcript says, and comes back with the verdict. -/
theorem openProfile_eq :
    openProfile profile appId console
      = (console.performAll (transcript profile appId console),
          verdict profile appId console) := by
  cases file : console.machine.files.isFile profile with
  | false => simp [openProfile, openWith, transcript, verdict, file, Console.performAll]
  | true =>
      cases broken : hasNul (encode appId) with
      | true =>
          simp only [openProfile, openWith, file, if_true, Bridge.start_of_hasNul _ _ _ broken,
            transcript, verdict, broken, Bool.true_or, Outcome.mapError, Console.performAll_append]
          rfl
      | false =>
          cases blank : allBlank appId with
          | true =>
              simp only [openProfile, openWith, file, if_true,
                start_runtime_of_allBlank _ blank broken, transcript, verdict, broken, blank,
                Bool.or_true, Outcome.mapError, Console.performAll_append, Bool.false_eq_true,
                if_false]
              rfl
          | false =>
              obtain ⟨left, started⟩ := start_entry profile appId console broken blank
              rw [underWay] at started
              simp only [openProfile, openWith, file, if_true, started, transcript, verdict, broken,
                blank, Bool.or_false, Outcome.mapError, Console.performAll_append,
                Bool.false_eq_true, if_false]
              rfl

/-! ### Messages -/

theorem verdict_eq_ok_iff {code : Int32} :
    verdict profile appId console = .ok code ↔
      console.machine.files.isFile profile = true ∧ hasNul (encode appId) = false ∧
        allBlank appId = false ∧ exitCode (openOutcome profile appId console) = code := by
  unfold verdict
  cases console.machine.files.isFile profile with
  | false => simp
  | true =>
      cases hasNul (encode appId) with
      | true => simp
      | false => cases allBlank appId <;> simp

/-- The message about the end is in the transcript if the open was made, and no other call is such a
message. -/
theorem mem_transcript_iff {call : Console.Call}
    (message : ∃ text, call = .spinnerSuccess text ∨ call = .spinnerError text) :
    call ∈ transcript profile appId console ↔
      console.machine.files.isFile profile = true ∧ hasNul (encode appId) = false ∧
        allBlank appId = false ∧ call ∈ closing console (openOutcome profile appId console) := by
  have elsewhere : call ∉ (shownEvents profile appId console).flatMap Console.callsFor := by
    intro member
    obtain ⟨event, -, called⟩ := List.mem_flatMap.mp member
    obtain ⟨text, rfl | rfl⟩ := message
    · exact (Console.notMem_callsFor event text).1 called
    · exact (Console.notMem_callsFor event text).2 called
  have frame : call ∉ [.debug ("Application id: " ++ appId), .spinnerStart] ∧
      call ∉ [.spinnerStop] := by
    obtain ⟨text, rfl | rfl⟩ := message <;> simp
  unfold transcript
  cases console.machine.files.isFile profile with
  | false => simp
  | true =>
      simp only [if_true, List.mem_append, frame.1, frame.2, false_or, or_false, true_and]
      cases hasNul (encode appId) with
      | true => simp
      | false => cases allBlank appId <;> simp [elsewhere]

/-- The open does not end in a panic, so that there is one message about its end. -/
theorem openOutcome_cases :
    (∃ summary, openOutcome profile appId console = .ok summary) ∨
      ∃ error, openOutcome profile appId console = .failed error := by
  have calm := (openSession_of_calm Console.machine Engine.runtime theHandle profile.bytes
    Console.sink_calm (underWay appId console, some (newApplication appId console))).2
  cases ended : openOutcome profile appId console with
  | ok summary => exact .inl ⟨summary, rfl⟩
  | failed error => exact .inr ⟨error, rfl⟩
  | panicked text => exact absurd ended (calm text)

/-- The message about the end of the open goes with the code of the entry. -/
theorem mem_closing_iff :
    ((∃ text, .spinnerSuccess text ∈ closing console (openOutcome profile appId console)) ↔
        exitCode (openOutcome profile appId console) = 0) ∧
      ((∃ text, .spinnerError text ∈ closing console (openOutcome profile appId console)) ↔
        exitCode (openOutcome profile appId console) = 1) := by
  obtain ⟨summary, ended⟩ | ⟨error, ended⟩ := openOutcome_cases profile appId console
  · simp [ended, closing, exitCode]
  · simp [ended, closing, exitCode]

/-- There is a message of success exactly if the verdict is the code zero. -/
theorem spinnerSuccess_mem_transcript_iff :
    (∃ text, .spinnerSuccess text ∈ transcript profile appId console) ↔
      verdict profile appId console = .ok 0 := by
  rw [verdict_eq_ok_iff, ← (mem_closing_iff profile appId console).1]
  simp only [mem_transcript_iff profile appId console ⟨_, .inl rfl⟩, exists_and_left]

/-- There is a message of failure exactly if the verdict is the code one. -/
theorem spinnerError_mem_transcript_iff :
    (∃ text, .spinnerError text ∈ transcript profile appId console) ↔
      verdict profile appId console = .ok 1 := by
  rw [verdict_eq_ok_iff, ← (mem_closing_iff profile appId console).2]
  simp only [mem_transcript_iff profile appId console ⟨_, .inr rfl⟩, exists_and_left]

/-! ### The open in the engine -/

/-- The engine's own open of the profile, with the console getting its events. -/
def listening : Visit Console := ⟨id, profile, fun event console => (Console.sink event console).1⟩

/-- Whether the engine's own open succeeds. -/
def engineOpens : Bool :=
  ((listening profile).opening Console.machine (newApplication appId console)
    (underWay appId console)).1.succeeded

/-- The course of this open. -/
def engineCourse : Course :=
  course
    (Console.sink.hostAfter (underWay appId console)
      [.loadSettings, .loadProfile]).machine.files
    (Console.sink.hostAfter (underWay appId console)
      [.loadSettings, .loadProfile, .createRuntime]).machine.files profile

theorem engineOpens_iff :
    engineOpens profile appId console = true ↔
      ∃ entries, engineCourse profile appId console = .opened entries :=
  (listening profile).succeeded_opening_iff Console.machine _ _

variable {profile appId console}

/-- The open succeeds if the path is text and the engine's own open does. -/
theorem exists_openOutcome_iff
    (fits : ∀ entries, engineCourse profile appId console = .opened entries → InMemory entries)
    (file : console.machine.files.isFile profile = true) :
    (∃ summary, openOutcome profile appId console = .ok summary) ↔
      (decode? profile.bytes).isSome = true ∧ engineOpens profile appId console = true := by
  have admitted : checkPath profile.bytes = .ok profile.bytes ↔
      (decode? profile.bytes).isSome = true := by
    rw [checkPath_eq_ok_iff, Option.isSome_iff_exists]
    exact and_iff_left (FileSystem.whole_of_isFile file)
  rw [← admitted, engineOpens_iff]
  exact openSession_runtime_ok_iff Console.machine theHandle Console.sink_calm _ _ fits

/-- So the code of the entry tells of that. -/
theorem exitCode_openOutcome
    (fits : ∀ entries, engineCourse profile appId console = .opened entries → InMemory entries)
    (file : console.machine.files.isFile profile = true) :
    exitCode (openOutcome profile appId console)
      = if (decode? profile.bytes).isSome && engineOpens profile appId console then 0 else 1 := by
  have opened := exists_openOutcome_iff fits file
  rw [← Bool.and_eq_true] at opened
  obtain ⟨summary, ended⟩ | ⟨error, ended⟩ := openOutcome_cases profile appId console
  · rw [if_pos (opened.mp ⟨summary, ended⟩), ended]
    rfl
  · rw [if_neg, ended]
    · rfl
    · intro succeeded
      obtain ⟨summary, other⟩ := opened.mpr succeeded
      rw [ended] at other
      cases other

/-- A verdict that is an error is one of three, all with the exit code two. -/
theorem exitCode_of_verdict {error : Error}
    (failed : verdict profile appId console = .failed error) : error.exitCode = 2 := by
  unfold verdict at failed
  split at failed
  · split at failed
    · obtain rfl := Outcome.failed.inj failed
      rfl
    · split at failed
      · obtain rfl := Outcome.failed.inj failed
        rfl
      · cases failed
  · obtain rfl := Outcome.failed.inj failed
    rfl

/-- With an id that is not blank the engine starts, if it is asked to. -/
theorem verdict_ne_initialization (text : allBlank appId = false) (code : Int32) :
    verdict profile appId console ≠ .failed (.session (.initialization code)) := by
  unfold verdict
  rw [text]
  intro failed
  split at failed
  · split at failed <;> cases failed
  · cases failed

/-- What is written to a log file apart from the profile and the manifests does not matter: the
engine's own open succeeds if any open of the profile does on the files as they were. -/
theorem engineOpens_eq (apart : console.LogApart EndsAsManifest profile) (app : Application) :
    let alone : Visit Machine := ⟨id, profile, fun _ => id⟩
    engineOpens profile appId console = (alone.opening id app console.machine).1.succeeded := by
  have asked (events : List Event) : Console.sink.hostAfter (underWay appId console) events
      = console.performAll ([.debug ("Application id: " ++ appId), .spinnerStart]
          ++ events.flatMap Console.callsFor) := by
    rw [Console.hostAfter_sink, Console.performAll_append]
    rfl
  have reading := apart.performAll ([.debug ("Application id: " ++ appId), .spinnerStart]
    ++ [Event.loadSettings, .loadProfile].flatMap Console.callsFor)
  have looking := apart.performAll ([.debug ("Application id: " ++ appId), .spinnerStart]
    ++ [Event.loadSettings, .loadProfile, .createRuntime].flatMap Console.callsFor)
  rw [← asked] at reading looking
  -- The console's own open and one on the files as they were get the same answers.
  have alike := (SameAnswers.of_sameSkeleton reading.toOption_read looking.skeleton).alike
  rw [Bool.eq_iff_iff, engineOpens_iff, Visit.succeeded_opening_iff]
  exact alike.opened_iff.symm

/-! ### Verdicts -/

/-- **What opening a profile ends with.** Without a profile that is a file, with a NUL in the id and
with a blank id it fails, in this order, each with its error and the exit code two. Else it comes
back with zero if the path is text and the engine opens the profile, and with one if not; there is
no other way for it to end. What is asked of the console is in the transcript: a message of success
exactly if it comes back with zero, and one of failure exactly if it comes back with one. Unless the
log file gets into the way, the engine opens what it opens on the files as they are.

The id from a configuration is never blank, so that the program does not end with the error for
that. -/
theorem openProfile_exits (profile : Path) (appId : String) (console : Console)
    (fits : ∀ entries, engineCourse profile appId console = .opened entries → InMemory entries) :
    let files := console.machine.files
    let result := openProfile profile appId console
    let calls := transcript profile appId console
    result.2 =
        (if files.isFile profile then
          if hasNul (encode appId) then .failed (.session (Bridge.appIdHasNul appId))
          else if allBlank appId then .failed (.session (.initialization 2))
          else if (decode? profile.bytes).isSome && engineOpens profile appId console then .ok 0
          else .ok 1
        else .failed (.profileNotFound profile)) ∧
      (∀ error, result.2 = .failed error → error.exitCode = 2) ∧
      result.1 = console.performAll calls ∧
      ((∃ text, .spinnerSuccess text ∈ calls) ↔ result.2 = .ok 0) ∧
      ((∃ text, .spinnerError text ∈ calls) ↔ result.2 = .ok 1) ∧
      (console.LogApart EndsAsManifest profile →
        let alone : Visit Machine := ⟨id, profile, fun _ => id⟩
        ∀ app, engineOpens profile appId console
          = (alone.opening id app console.machine).1.succeeded) ∧
      (∀ config : Config, allBlank config.applicationId = false) ∧
      ∀ (options : Options) (config : Config) (fault : Option Config.Error) (code : Int32),
        (perform options (.openProfile profile) config fault console).2
          ≠ .failed (.session (.initialization code)) := by
  intro files result calls
  have same : result = _ := openProfile_eq profile appId console
  have ends : result.2 = verdict profile appId console := by rw [same]
  refine ⟨?_, ?_, by rw [same], ?_, ?_, engineOpens_eq, Config.allBlank_applicationId, ?_⟩
  · rw [ends, verdict]
    by_cases file : files.isFile profile = true
    · rw [if_pos file, if_pos file, exitCode_openOutcome fits file]
      by_cases broken : hasNul (encode appId) = true
      · rw [if_pos broken, if_pos broken]
      · rw [if_neg broken, if_neg broken]
        by_cases blank : allBlank appId = true
        · rw [if_pos blank, if_pos blank, invalidAppId]
        · rw [if_neg blank, if_neg blank, apply_ite Outcome.ok]
    · rw [if_neg file, if_neg file]
  · intro error failed
    exact exitCode_of_verdict (ends.symm.trans failed)
  · rw [ends]
    exact spinnerSuccess_mem_transcript_iff profile appId console
  · rw [ends]
    exact spinnerError_mem_transcript_iff profile appId console
  · intro options config fault code
    rw [perform, openProfile_eq]
    exact verdict_ne_initialization (Config.allBlank_applicationId config) code

end

/-- A profile with one plugin is opened while a log file is kept beside it. -/
theorem openProfile_exits_listed_plugin :
    let files : FileSystem :=
      { cwd := []
        nodes :=
          [([encode "game.toml"], .file (encode "title = \"Game\"\nplugins = [\"b\"]\n")),
            ([encode "plugins"], .directory), ([encode "plugins", encode "b.toml"], .file [])] }
    let console : Console :=
      { Console.fresh ⟨⟨none, none, none, none⟩, files⟩ "noon" false with
        logFile := some ⟨encode "stagehand.log"⟩ }
    let profile : Path := ⟨encode "game.toml"⟩
    (∀ entries, engineCourse profile "io.demo" console = .opened entries → InMemory entries) ∧
      (openProfile profile "io.demo" console).2 = .ok 0 ∧
      (∃ text, .spinnerSuccess text ∈ transcript profile "io.demo" console) ∧
      ¬ ∃ text, .spinnerError text ∈ transcript profile "io.demo" console := by
  intro files console profile
  have opens : engineCourse profile "io.demo" console
      = .opened [⟨"b", ⟨encode "plugins/b.toml"⟩⟩] := by
    decide +kernel
  have fits : ∀ entries, engineCourse profile "io.demo" console = .opened entries →
      InMemory entries := by
    intro entries found
    obtain rfl := Course.opened.inj (opens.symm.trans found)
    exact ⟨by decide, by decide⟩
  have file : console.machine.files.isFile profile = true := by decide +kernel
  have whole : hasNul (encode "io.demo") = false := by decide
  have text : allBlank "io.demo" = false := by decide
  have valid : (decode? profile.bytes).isSome = true := by
    rw [decode?_encode]
    rfl
  have opened : engineOpens profile "io.demo" console = true :=
    (engineOpens_iff profile "io.demo" console).mpr ⟨_, opens⟩
  obtain ⟨ends, -, -, success, failure, -⟩ := openProfile_exits profile "io.demo" console fits
  have zero : (openProfile profile "io.demo" console).2 = .ok 0 := by
    rw [ends, if_pos file, whole, text, valid, opened]
    rfl
  refine ⟨fits, zero, success.mpr zero, fun failed => ?_⟩
  have one := zero.symm.trans (failure.mp failed)
  exact absurd (Outcome.ok.inj one) (by decide)

end Command

end SessionHost
