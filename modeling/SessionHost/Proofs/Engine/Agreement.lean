import SessionHost.Proofs.Engine.Reporting
import SessionHost.Proofs.Session.Starting
import SessionHost.Session.Attempts

/-!
The engine keeps the protocol.

`start_runtime` says how a session of an application begins and `AfterOpens` in which states it can
be later. `Agrees` says what an open is to come to, and `openSession_runtime_agrees` that it does so
in each of these states.
-/

namespace SessionHost.Engine

open Text Protocol Session

variable {σ : Type}

/-! ### Sessions of an application -/

/-- The configuration that an application gets: what can be loaded, or nothing set. -/
def startConfig (machine : Machine) : Config :=
  match Config.load machine with
  | .ok config => config
  | .error _ => {}

/-- An id that holds no NUL arrives as it was sent. -/
theorem readTerminated?_terminate {id : String} (whole : hasNul (encode id) = false) :
    readTerminated? (terminate (encode id)) = some id := by
  rw [readTerminated?, untilNul_terminate whole, decode?_encode]

/-- An id that is not blank and holds no NUL begins an application. -/
theorem begin_terminate (machine : Machine) {id : String} (text : allBlank id = false)
    (whole : hasNul (encode id) = false) :
    begin machine (some (terminate (encode id))) true
      = .application (.fresh id (startConfig machine)) := by
  simp only [begin, Option.bind_some, readTerminated?_terminate whole, text, startConfig,
    Bool.false_eq_true, if_false, Bool.not_true]
  cases Config.load machine <;> rfl

/-- The result of a start whose entry ended like this. -/
def ofEnding : Ending → Outcome Session.Error Int32
  | .returned code => .ok code
  | .panicked text => .panicked text

/-- A start with the engine runs the entry once, on a fresh application, and ends like it. -/
theorem start_runtime (view : σ → Machine) {id : String} (text : allBlank id = false)
    (whole : hasNul (encode id) = false) (entry : Entry σ (Option Application)) (host : σ)
    (inside : Option Application) :
    (Bridge.fresh id).start view runtime entry (host, inside)
      = let result := entry (openSession view runtime theHandle)
          (host, some (.fresh id (startConfig (view host))))
        (result.1, ⟨id, true⟩, ofEnding result.2) := by
  have started : runtime.start (view host) (terminate (encode id)) inside
      = (⟨[⟨some theHandle, true⟩], .first⟩, some (.fresh id (startConfig (view host)))) := by
    simp only [runtime, begin_terminate (view host) text whole]
  simp only [Bridge.start, Bridge.fresh, whole, started, List.foldl_cons, List.foldl_nil,
    Launch.init, Launch.fresh, Launch.enter, Bool.not_true, Bool.false_eq_true, if_false,
    ne_eq, not_true_eq_false]
  cases ending : (entry (openSession view runtime theHandle)
      (host, some (.fresh id (startConfig (view host))))).2 with
  | returned code => rfl
  | panicked panic => rfl

/-- With a blank id the engine does not start. -/
theorem start_runtime_of_allBlank (view : σ → Machine) {id : String} (blank : allBlank id = true)
    (whole : hasNul (encode id) = false) (entry : Entry σ (Option Application)) (host : σ)
    (inside : Option Application) :
    (Bridge.fresh id).start view runtime entry (host, inside)
      = ((host, none), ⟨id, true⟩, .failed (.initialization invalidAppId)) := by
  have refused : runtime.start (view host) (terminate (encode id)) inside
      = (⟨[], .always invalidAppId⟩, none) := by
    simp only [runtime, begin, Option.bind_some, readTerminated?_terminate whole, blank, if_true]
  rw [Bridge.start_of_whole view runtime entry whole]
  simp only [refused, List.foldl_nil, Launch.fresh, Launch.finish, ReturnRule.status]

/-- The states of host and engine that a session can have come to: after opens of any paths with
any sinks, and with anything that befell the host in between. -/
inductive AfterOpens (view : σ → Machine) (start : σ × Option Application) :
    σ × Option Application → Prop where
  | start : AfterOpens view start start
  | opened {state : σ × Option Application} (path : Bytes) (sink : Sink σ) :
      AfterOpens view start state →
      AfterOpens view start (openSession view runtime theHandle path sink state).1
  | meanwhile {host : σ} {inside : Option Application} (later : σ) :
      AfterOpens view start (host, inside) → AfterOpens view start (later, inside)

/-- The engine keeps the application that the session began with, with its id and
configuration. -/
theorem AfterOpens.application {view : σ → Machine} {host : σ} {app : Application}
    {state : σ × Option Application} (reached : AfterOpens view (host, some app) state) :
    ∃ left, state.2 = some left ∧ left.id = app.id ∧ left.config = app.config := by
  -- Induction on the history; only an open touches the engine, and no open drops its application.
  induction reached with
  | start => exact ⟨app, rfl, rfl, rfl⟩
  | @opened state path sink _ ih =>
      obtain ⟨before, kept, id, config⟩ := ih
      obtain ⟨host, inside⟩ := state
      simp only at kept
      subst kept
      obtain ⟨left, kept, sameId, sameConfig⟩ :=
        openSession_runtime_keeps view theHandle path sink host before
      exact ⟨left, kept, sameId.trans id, sameConfig.trans config⟩
  | meanwhile later _ ih => exact ih

/-! ### Agreement -/

/-- The events that the engine emits while it opens the profile at a path, if each goes to the sink
at once. -/
def Application.emitted (view : σ → Machine) (path : Path) (sink : Sink σ) (host : σ)
    (app : Application) : List Event :=
  (app.openProfile path).sent view (fun event host => (sink event host).1) host

/-- Events and outcome agree with the files that are there when the profile is read and when its
plugins are looked for. The open ends after `loadProfile` exactly if the profile cannot be loaded,
after `createRuntime` exactly if its plugins cannot be listed, and else with all its plugins. -/
structure Agrees (reading looking : FileSystem) (path : Path) (events : List Event)
    (outcome : Outcome Session.Error Summary) : Prop where
  noViolation : ∀ violation, outcome ≠ .failed (.protocolViolation violation)
  noProfile_iff : outcome = .failed (.incomplete (some .loadProfile)) ↔
    ∃ error, Profile.load reading path = .error error
  noProfile : ∀ error, Profile.load reading path = .error error →
    events = [.loadSettings, .loadProfile]
  noPlugins_iff : outcome = .failed (.incomplete (some .createRuntime)) ↔
    ∃ profile error, Profile.load reading path = .ok profile ∧
      discover looking profile.plugins profile.pluginDir path = .error error
  noPlugins : ∀ profile error, Profile.load reading path = .ok profile →
    discover looking profile.plugins profile.pluginDir path = .error error →
    events = [.loadSettings, .loadProfile, .createRuntime]
  opened : ∀ profile entries, Profile.load reading path = .ok profile →
    discover looking profile.plugins profile.pluginDir path = .ok entries →
    events = completed (announced entries) ∧
      outcome = .ok ⟨entries.map (·.name)⟩ ∧
      Finds looking (Profile.pluginRoot profile.pluginDir path) profile.plugins
        (entries.map (·.name))

/-- A course agrees with the files that it was determined by. -/
theorem course_agrees (reading looking : FileSystem) (path : Path) :
    Agrees reading looking path (course reading looking path).events
      (course reading looking path).outcome := by
  cases loaded : Profile.load reading path with
  | error error =>
      rw [course_eq_noProfile_iff.mpr loaded]
      constructor <;> simp [Course.events, Course.outcome, loaded]
  | ok profile =>
      have same {other : Profile} (again : Profile.load reading path = .ok other) :
          other = profile := Except.ok.inj (again.symm.trans loaded)
      cases found : discover looking profile.plugins profile.pluginDir path with
      | error error =>
          rw [course_eq_noPlugins_iff.mpr ⟨profile, loaded, found⟩]
          refine ⟨by simp [Course.outcome], by simp [Course.outcome, loaded], by simp [loaded],
            by simp [Course.outcome, loaded, found], fun _ _ _ _ => rfl, ?_⟩
          intro other entries again listed
          obtain rfl := same again
          rw [found] at listed
          cases listed
      | ok entries =>
          rw [course_eq_opened_iff.mpr ⟨profile, loaded, found⟩]
          refine ⟨by simp [Course.outcome], by simp [Course.outcome, loaded], by simp [loaded],
            by simp [Course.outcome, loaded, found], ?_, ?_⟩
          · intro other error again refused
            obtain rfl := same again
            rw [found] at refused
            cases refused
          · intro other others again listed
            obtain rfl := same again
            obtain rfl := Except.ok.inj (found.symm.trans listed)
            exact ⟨rfl, rfl, finds_discover found⟩

/-- An open with the engine succeeds if the host lets the path through and the profile is opened. -/
theorem openSession_runtime_ok_iff (view : σ → Machine) (handle : Handle) {path : Bytes}
    {sink : Sink σ} (calm : sink.Calm) (host : σ) (app : Application)
    (fits : ∀ entries,
      course (view (sink.hostAfter host [.loadSettings, .loadProfile])).files
        (view (sink.hostAfter host [.loadSettings, .loadProfile, .createRuntime])).files ⟨path⟩
        = .opened entries → InMemory entries) :
    (∃ summary, (openSession view runtime handle path sink (host, some app)).2 = .ok summary) ↔
      checkPath path = .ok path ∧ ∃ entries,
        course (view (sink.hostAfter host [.loadSettings, .loadProfile])).files
          (view (sink.hostAfter host [.loadSettings, .loadProfile, .createRuntime])).files ⟨path⟩
          = .opened entries := by
  cases checked : checkPath path with
  | error error => simp [openSession, checked]
  | ok path' =>
      obtain rfl := eq_of_checkPath checked
      rw [(openSession_eq checked).2, delivered_runtime view handle checked calm host app,
        (Course.delivery fits calm host).2]
      generalize course _ _ _ = found
      cases found <;> simp [Course.outcome]

/-- **The engine and its host agree.** Let the id of an application be neither blank nor hold a NUL.
A start runs its entry on a fresh application. In every state that the session can have come to,
whatever the configuration, let a path be opened that the host lets through, with a sink that never
panics, and let memory hold the plugins if any are found. Then the sink gets exactly the events that
the engine emits, and these and the outcome agree with the files at the path, as the sink leaves
them. -/
theorem openSession_runtime_agrees (view : σ → Machine) {id : String} (text : allBlank id = false)
    (whole : hasNul (encode id) = false) :
    (∀ (entry : Entry σ (Option Application)) (host : σ) (inside : Option Application),
      (Bridge.fresh id).start view runtime entry (host, inside)
        = let result := entry (openSession view runtime theHandle)
            (host, some (.fresh id (startConfig (view host))))
          (result.1, ⟨id, true⟩, ofEnding result.2)) ∧
    ∀ (config : Config) (first host : σ) (inside : Option Application),
      AfterOpens view (first, some (.fresh id config)) (host, inside) →
      ∀ (path : Bytes) (sink : Sink σ), checkPath path = .ok path → sink.Calm →
      let started := sink.hostAfter host [.loadSettings, .loadProfile]
      let created := sink.hostAfter host [.loadSettings, .loadProfile, .createRuntime]
      let reading := (view started).files
      let looking := (view created).files
      (∀ entries, course reading looking ⟨path⟩ = .opened entries → InMemory entries) →
      ∃ app, inside = some app ∧ app.id = id ∧ app.config = config ∧
        handedBy view runtime theHandle path sink (host, inside)
          = app.emitted view ⟨path⟩ sink host ∧
        Agrees reading looking ⟨path⟩ (app.emitted view ⟨path⟩ sink host)
          (openSession view runtime theHandle path sink (host, inside)).2 := by
  refine ⟨fun entry host inside => start_runtime view text whole entry host inside, ?_⟩
  intro config first host inside reached path sink admitted calm started created reading looking
    fits
  obtain ⟨app, rfl, sameId, sameConfig⟩ := reached.application
  refine ⟨app, rfl, sameId, sameConfig, ?_⟩
  have sent : app.emitted view ⟨path⟩ sink host = (course reading looking ⟨path⟩).events :=
    Application.sent_openProfile view (fun event host => (sink event host).1) app ⟨path⟩ host
  obtain ⟨got, ended⟩ := Course.delivery fits calm host
  rw [sent, handedBy_eq admitted, (openSession_eq admitted).2,
    delivered_runtime view theHandle admitted calm host app, got, ended]
  exact ⟨rfl, course_agrees reading looking ⟨path⟩⟩

/-- A profile that lists a plugin twice and one that is missing is opened after an earlier open that
failed. -/
theorem openSession_runtime_agrees_after_failure :
    let files : FileSystem :=
      { cwd := []
        nodes :=
          [([encode "game.toml"],
              .file (encode "title = \"Game\"\nplugins = [\"b\", \"a\", \"b\", \"none\"]\n")),
            ([encode "plugins"], .directory),
            ([encode "plugins", encode "a.toml"], .file []),
            ([encode "plugins", encode "b.toml"], .file [])] }
    let host : Journal Machine := .fresh ⟨⟨none, none, none, none⟩, files⟩
    let sink : Sink (Journal Machine) := Journal.sink fun _ => none
    let start := (host, some (Application.fresh "io.demo" {}))
    let inside := (openSession Journal.around runtime theHandle (encode "none.toml") sink start).1.2
    allBlank "io.demo" = false ∧ hasNul (encode "io.demo") = false ∧
      AfterOpens Journal.around start (host, inside) ∧
      checkPath (encode "game.toml") = .ok (encode "game.toml") ∧ sink.Calm ∧
      (∀ entries, course files files ⟨encode "game.toml"⟩ = .opened entries → InMemory entries) ∧
      handedBy Journal.around runtime theHandle (encode "game.toml") sink (host, inside)
        = completed
            [⟨encode "b", 0, 3⟩, ⟨encode "a", 1, 3⟩, ⟨encode "b", 2, 3⟩] ∧
      (openSession Journal.around runtime theHandle (encode "game.toml") sink (host, inside)).2
        = .ok ⟨["b", "a", "b"]⟩ := by
  intro files host sink start inside
  have text : allBlank "io.demo" = false := by decide
  have whole : hasNul (encode "io.demo") = false := by decide
  have reached : AfterOpens Journal.around start (host, inside) :=
    .meanwhile host (.opened (encode "none.toml") sink .start)
  have admitted : checkPath (encode "game.toml") = .ok (encode "game.toml") :=
    checkPath_eq_ok_iff.mpr ⟨⟨_, decode?_encode _⟩, by decide, by decide⟩
  have calm : sink.Calm := fun _ _ => rfl
  have opens : course files files ⟨encode "game.toml"⟩ = .opened
      [⟨"b", ⟨encode "plugins/b.toml"⟩⟩, ⟨"a", ⟨encode "plugins/a.toml"⟩⟩,
        ⟨"b", ⟨encode "plugins/b.toml"⟩⟩] := by
    decide +kernel
  have fits : ∀ entries, course files files ⟨encode "game.toml"⟩ = .opened entries →
      InMemory entries := by
    intro entries found
    obtain rfl := Course.opened.inj (opens.symm.trans found)
    exact ⟨by decide, by decide⟩
  obtain ⟨app, -, -, -, got, agrees⟩ :=
    (openSession_runtime_agrees Journal.around text whole).2 {} host host inside reached
      (encode "game.toml") sink admitted calm fits
  obtain ⟨profile, loaded, found⟩ := course_eq_opened_iff.mp opens
  obtain ⟨events, outcome, -⟩ := agrees.opened profile _ loaded found
  exact ⟨text, whole, reached, admitted, calm, fits, got.trans events, outcome⟩

end SessionHost.Engine
