import SessionHost.Proofs.Engine.Reporting

/-!
What an application keeps over any number of opens.

An open needs nothing of what earlier opens left but the id and the configuration
(`Application.openProfile_eq_map`), and `Visit.loads` says what it loads. `History` is about opens
one after the other, with anything happening to the files in between, and `visits_keep_last` says
what the application holds after them.
-/

namespace SessionHost.Engine

open Text Protocol Session

variable {σ : Type}

/-! ### What can be done without -/

/-- The value is what can be loaded from the place, and the default if nothing can. -/
structure IsFound {α ε ε' : Type} (place : Except ε Path) (load : Path → Except ε' α)
    (default value : α) : Prop where
  loaded : ∀ dir found, place = .ok dir → load dir = .ok found → value = found
  missing : (∀ dir found, place = .ok dir → load dir ≠ .ok found) → value = default

theorem IsFound.of_cases {α ε ε' : Type} {place : Except ε Path} {load : Path → Except ε' α}
    {default value : α} (nowhere : ∀ error, place = .error error → value = default)
    (failed : ∀ dir error, place = .ok dir → load dir = .error error → value = default)
    (loaded : ∀ dir found, place = .ok dir → load dir = .ok found → value = found) :
    IsFound place load default value := by
  refine ⟨loaded, fun nothing => ?_⟩
  cases here : place with
  | error error => exact nowhere error here
  | ok dir =>
      cases came : load dir with
      | error error => exact failed dir error here came
      | ok found => exact absurd came (nothing dir found here)

/-! ### Opens and fresh applications -/

namespace Application

theorem isFound_loadSettings (app : Application) (machine : Machine) :
    IsFound (app.config.settingsDirectory machine.environment app.id)
      (Settings.load machine.files) {} (app.loadSettings machine) := by
  refine .of_cases ?_ ?_ ?_
  · intro error place
    simp only [loadSettings, place]
  · intro dir error place load
    simp only [loadSettings, place, load]
  · intro dir found place load
    simp only [loadSettings, place, load]

theorem isFound_loadRecords (app : Application) (machine : Machine) (profile : Profile) :
    IsFound (app.recordsDirectory machine profile) (SavedRecord.loadAll machine.files) []
      (app.loadRecords machine profile) := by
  refine .of_cases ?_ ?_ ?_
  · intro error place
    simp only [loadRecords, place]
  · intro dir error place load
    simp only [loadRecords, place, load]
  · intro dir found place load
    simp only [loadRecords, place, load]

/-- What is left of an application after an open that came to `found` on a fresh one: all that was
loaded, or only the settings if the open failed. -/
def take (app : Application) (found : Application × Except Error Unit) :
    Application × Except Error Unit :=
  match found.2 with
  | .ok () => (found.1, .ok ())
  | .error error => ({ app with settings := found.1.settings }, .error error)

theorem take_snd (app : Application) (found : Application × Except Error Unit) :
    (app.take found).2 = found.2 := by
  obtain ⟨loaded, result⟩ := found
  cases result <;> rfl

/-- An open does what it does on a fresh application with the same id and configuration. -/
theorem openProfile_eq_map (app : Application) (path : Path) :
    app.openProfile path = app.take <$> (fresh app.id app.config).openProfile path := by
  have settings : (fresh app.id app.config).loadSettings = app.loadSettings := rfl
  simp only [openProfile, Script.map_eq_bind, Script.bind_assoc, settings]
  refine congrArg (Script.tell Event.loadSettings >>= ·) (funext fun _ => ?_)
  refine congrArg (Script.observe app.loadSettings >>= ·) (funext fun settings => ?_)
  refine congrArg (Script.tell Event.loadProfile >>= ·) (funext fun _ => ?_)
  refine congrArg (Script.observe _ >>= ·) (funext fun loaded => ?_)
  cases loaded with
  | error error => rfl
  | ok profile =>
      simp only [Script.bind_assoc]
      refine congrArg (Script.tell Event.createRuntime >>= ·) (funext fun _ => ?_)
      refine congrArg (Script.observe _ >>= ·) (funext fun found => ?_)
      cases found with
      | error error => rfl
      | ok entries =>
          simp only [Script.bind_assoc]
          rfl

/-- The plugins that are loaded are those of the entries, in order. -/
theorem map_name_run_loadPlugins (view : σ → Machine) (receive : Event → σ → σ) (count index : Nat)
    (entries : List PluginEntry) (state : σ) :
    ((loadPlugins count index entries).run view receive state).2.map (·.name)
      = entries.map (·.name) := by
  have named (machine : Machine) (entry : PluginEntry) :
      (loadPlugin machine entry).name = entry.name := by
    unfold loadPlugin
    cases Manifest.load machine.files entry.path <;> rfl
  induction entries generalizing index state with
  | nil => rfl
  | cons entry rest ih =>
      simp only [loadPlugins, Script.run_bind, Script.run_tell, Script.run_observe, Script.run_pure,
        List.map_cons, ih, named]

/-- What an application holds of the last open that succeeded. -/
def opened (app : Application) : Option Profile × List Plugin × List SavedRecord :=
  (app.profile, app.plugins, app.records)

section

variable (view : σ → Machine) (receive : Event → σ → σ) (app : Application) (path : Path)
  (state : σ)

/-- Without a profile that can be loaded only the settings are. -/
theorem run_openProfile_of_noProfile {error : Error}
    (loaded : Profile.load (view (receive .loadProfile (receive .loadSettings state))).files path
      = .error error) :
    ((app.openProfile path).run view receive state).2
      = ({ app with settings := some (app.loadSettings (view (receive .loadSettings state))) },
          .error error) := by
  simp only [openProfile, Script.run_bind, Script.run_tell, Script.run_observe, loaded,
    Script.run_pure]

/-- So it is without plugins that can be listed. -/
theorem run_openProfile_of_noPlugins {profile : Profile} {error : Error}
    (loaded : Profile.load (view (receive .loadProfile (receive .loadSettings state))).files path
      = .ok profile)
    (found : discover
      (view (receive .createRuntime (receive .loadProfile (receive .loadSettings state)))).files
      profile.plugins profile.pluginDir path = .error error) :
    ((app.openProfile path).run view receive state).2
      = ({ app with settings := some (app.loadSettings (view (receive .loadSettings state))) },
          .error error) := by
  simp only [openProfile, Script.run_bind, Script.run_tell, Script.run_observe, loaded, found,
    Script.run_pure]

/-- Else all is loaded, each at its time. -/
theorem run_openProfile_of_opened {profile : Profile} {entries : List PluginEntry}
    (loaded : Profile.load (view (receive .loadProfile (receive .loadSettings state))).files path
      = .ok profile)
    (found : discover
      (view (receive .createRuntime (receive .loadProfile (receive .loadSettings state)))).files
      profile.plugins profile.pluginDir path = .ok entries) :
    let listed := (loadPlugins entries.length 0 entries).run view receive
      (receive .createRuntime (receive .loadProfile (receive .loadSettings state)))
    ((app.openProfile path).run view receive state).2
      = ({ app with
            settings := some (app.loadSettings (view (receive .loadSettings state)))
            profile := some profile
            plugins := listed.2
            records := app.loadRecords (view (receive .loadRecords listed.1)) profile },
          .ok ()) := by
  simp only [openProfile, Script.run_bind, Script.run_tell, Script.run_observe, loaded, found,
    Script.run_pure]
  rfl

/-- An open succeeds if that is its course. -/
theorem run_openProfile_eq_ok_iff :
    let started := receive .loadProfile (receive .loadSettings state)
    ((app.openProfile path).run view receive state).2.2 = .ok () ↔
      ∃ entries, course (view started).files (view (receive .createRuntime started)).files path
        = .opened entries := by
  intro started
  cases loaded : Profile.load (view started).files path with
  | error error =>
      rw [run_openProfile_of_noProfile view receive app path state loaded,
        course_eq_noProfile_iff.mpr loaded]
      simp
  | ok profile =>
      cases found : discover (view (receive .createRuntime started)).files profile.plugins
          profile.pluginDir path with
      | error error =>
          rw [run_openProfile_of_noPlugins view receive app path state loaded found,
            course_eq_noPlugins_iff.mpr ⟨profile, loaded, found⟩]
          simp
      | ok entries =>
          rw [run_openProfile_of_opened view receive app path state loaded found,
            course_eq_opened_iff.mpr ⟨profile, loaded, found⟩]
          simp

end

end Application

/-! ### Visits -/

/-- An open in the course of time: what befalls the surroundings before it, its path, and what
becomes of the surroundings at each of its events. -/
structure Visit (σ : Type) where
  meanwhile : σ → σ
  path : Path
  listen : Event → σ → σ

/-- What an open came to: its events, its result and the application that it left. -/
structure Opening where
  events : List Event
  result : Except Error Unit
  left : Application

namespace Opening

/-- What an open shows to whoever asked for it. -/
def shown (opening : Opening) : List Event × Except Error Unit := (opening.events, opening.result)

/-- Whether the open succeeded. -/
def succeeded (opening : Opening) : Bool := opening.result.toBool

end Opening

namespace Visit

variable (view : σ → Machine) (visit : Visit σ)

/-- The surroundings once the events have come. -/
def after (events : List Event) (state : σ) : σ :=
  events.foldl (fun state event => visit.listen event state) state

/-- The open of a visit, and the surroundings that it leaves. -/
def opening (app : Application) (state : σ) : Opening × σ :=
  let script := app.openProfile visit.path
  let ran := script.run view visit.listen (visit.meanwhile state)
  (⟨script.sent view visit.listen (visit.meanwhile state), ran.2.2, ran.2.1⟩, ran.1)

/-- An open has the events and the result that it has on a fresh application, and so it leaves the
surroundings. -/
theorem opening_eq (app : Application) (state : σ) :
    let alone := visit.opening view (.fresh app.id app.config) state
    visit.opening view app state
      = (⟨alone.1.events, alone.1.result, (app.take (alone.1.left, alone.1.result)).1⟩,
          alone.2) := by
  simp only [opening]
  rw [app.openProfile_eq_map visit.path, Script.map_eq_bind, Script.sent_bind, Script.run_bind,
    Script.sent_pure, Script.run_pure, List.append_nil, Application.take_snd]

end Visit

/-- What an open of a visit loads for an application. The settings are those that are there after
the first event. If the open fails nothing else changes. If it succeeds, the profile is the one that
was there after the second event, the plugins are those that were announced, in order, and the
records are those that were there before the last event. -/
structure Loads (view : σ → Machine) (visit : Visit σ) (ready : σ) (app : Application)
    (opening : Opening) : Prop where
  identity : opening.left.id = app.id ∧ opening.left.config = app.config
  settings : ∃ settings, opening.left.settings = some settings ∧
    let machine := view (visit.after [.loadSettings] ready)
    IsFound (app.config.settingsDirectory machine.environment app.id) (Settings.load machine.files)
      {} settings
  failed : ∀ error, opening.result = .error error →
    opening.left = { app with settings := opening.left.settings }
  profile : opening.result = .ok () → ∃ profile, opening.left.profile = some profile ∧
    Profile.load (view (visit.after [.loadSettings, .loadProfile] ready)).files visit.path
      = .ok profile ∧
    let machine := view (visit.after opening.events.dropLast ready)
    IsFound (app.recordsDirectory machine profile) (SavedRecord.loadAll machine.files) []
      opening.left.records
  plugins : opening.result = .ok () →
    opening.left.plugins.map (·.name) = pluginNames opening.events

section

variable {view : σ → Machine} {visit : Visit σ} {ready : σ} {app : Application} {opening : Opening}

/-- An open that fails loads the settings. -/
theorem Loads.of_error {error : Error} (result : opening.result = .error error)
    (left : opening.left = { app with
      settings := some (app.loadSettings (view (visit.after [.loadSettings] ready))) }) :
    Loads view visit ready app opening := by
  have failed : opening.result ≠ .ok () := by simp [result]
  constructor
  case failed =>
    intro _ _
    rw [left]
  case profile => exact fun ok => absurd ok failed
  case plugins => exact fun ok => absurd ok failed
  all_goals rw [left]
  case identity => exact ⟨rfl, rfl⟩
  case settings => exact ⟨_, rfl, app.isFound_loadSettings _⟩

/-- An open that succeeds loads everything. -/
theorem Loads.of_ok {profile : Profile} {entries : List PluginEntry} {plugins : List Plugin}
    (events : opening.events = completed (announced entries)) (result : opening.result = .ok ())
    (read : Profile.load (view (visit.after [.loadSettings, .loadProfile] ready)).files visit.path
      = .ok profile)
    (names : plugins.map (·.name) = entries.map (·.name))
    (left : opening.left = { app with
      settings := some (app.loadSettings (view (visit.after [.loadSettings] ready)))
      profile := some profile
      plugins := plugins
      records := app.loadRecords (view (visit.after opening.events.dropLast ready)) profile }) :
    Loads view visit ready app opening := by
  constructor
  case failed =>
    intro error failed
    rw [result] at failed
    cases failed
  all_goals rw [left]
  case identity => exact ⟨rfl, rfl⟩
  case settings => exact ⟨_, rfl, app.isFound_loadSettings _⟩
  case profile =>
    intro _
    exact ⟨profile, rfl, read, app.isFound_loadRecords _ profile⟩
  case plugins =>
    intro _
    rw [names, events, pluginNames_completed, map_name_announced]

end

theorem dropLast_completed (loads : List PluginLoad) :
    (completed loads).dropLast = Protocol.opening loads ++ [.loadRecords] := by
  have last : completed loads = Protocol.opening loads ++ [.loadRecords] ++ [.loaded] := by
    simp [completed]
  rw [last, List.dropLast_concat]

/-- An open loads what is there. -/
theorem Visit.loads (view : σ → Machine) (visit : Visit σ) (app : Application) (state : σ) :
    Loads view visit (visit.meanwhile state) app (visit.opening view app state).1 := by
  let ready := visit.meanwhile state
  have events := Application.sent_openProfile view visit.listen app visit.path ready
  cases loaded : Profile.load (view (visit.after [.loadSettings, .loadProfile] ready)).files
      visit.path with
  | error error =>
      have ends := Application.run_openProfile_of_noProfile view visit.listen app visit.path ready
        loaded
      exact .of_error (congrArg Prod.snd ends) (congrArg Prod.fst ends)
  | ok profile =>
      cases found : discover
          (view (visit.after [.loadSettings, .loadProfile, .createRuntime] ready)).files
          profile.plugins profile.pluginDir visit.path with
      | error error =>
          have ends := Application.run_openProfile_of_noPlugins view visit.listen app visit.path
            ready loaded found
          exact .of_error (congrArg Prod.snd ends) (congrArg Prod.fst ends)
      | ok entries =>
          have ends := Application.run_openProfile_of_opened view visit.listen app visit.path ready
            loaded found
          have course := course_eq_opened_iff.mpr ⟨profile, loaded, found⟩
          have sent : (visit.opening view app state).1.events = completed (announced entries) :=
            events.trans (congrArg Course.events course)
          let listed := (Application.loadPlugins entries.length 0 entries).run view visit.listen
            (visit.after [.loadSettings, .loadProfile, .createRuntime] ready)
          have names : listed.2.map (·.name) = entries.map (·.name) :=
            Application.map_name_run_loadPlugins view visit.listen _ 0 entries _
          have recording : visit.after (completed (announced entries)).dropLast ready
              = visit.listen .loadRecords listed.1 := by
            simp only [listed, Script.run_fst_eq_foldl, Application.sent_loadPlugins,
              dropLast_completed]
            simp [Protocol.opening, Visit.after, announced]
          refine .of_ok sent (congrArg Prod.snd ends) loaded names ?_
          rw [sent, recording]
          exact congrArg Prod.fst ends

/-! ### Histories -/

/-- Opens one after the other: what they came to, and the application and the surroundings that
they left. -/
structure History (σ : Type) where
  openings : List Opening
  app : Application
  state : σ

namespace History

variable (view : σ → Machine)

/-- Nothing opened yet. -/
def start (app : Application) (state : σ) : History σ := ⟨[], app, state⟩

/-- The history with one more visit. -/
def extend (history : History σ) (visit : Visit σ) : History σ :=
  let made := visit.opening view history.app history.state
  ⟨history.openings ++ [made.1], made.1.left, made.2⟩

/-- The history with one more visit, which finds a fresh application. -/
def extendFresh (id : String) (config : Config) (history : History σ) (visit : Visit σ) :
    History σ :=
  extend view { history with app := .fresh id config } visit

end History

/-- An application that had visits, as in `history`, keeps what the opens by themselves, as in
`alone`, come to: the settings of the last, and profile, plugins and records of the last that
succeeded. Before there was one it keeps what `app` had. -/
structure Keeps (app : Application) (alone history : History σ) : Prop where
  shown : history.openings.map Opening.shown = alone.openings.map Opening.shown
  state : history.state = alone.state
  id : history.app.id = app.id
  config : history.app.config = app.config
  settings : history.app.settings
    = (alone.openings.getLast?.map (·.left.settings)).getD app.settings
  opened : history.app.opened
    = ((alone.openings.filter Opening.succeeded).getLast?.map (·.left.opened)).getD app.opened

/-- One more visit keeps it so. -/
theorem Keeps.extend {view : σ → Machine} {app : Application} {alone history : History σ}
    (keeps : Keeps app alone history) (visit : Visit σ) :
    Keeps app (alone.extendFresh view app.id app.config visit) (history.extend view visit) := by
  have made := visit.opening_eq view history.app history.state
  rw [keeps.id, keeps.config, keeps.state] at made
  let found := visit.opening view (.fresh app.id app.config) alone.state
  let left := (history.app.take (found.1.left, found.1.result)).1
  let opening : Opening := ⟨found.1.events, found.1.result, left⟩
  have kept : history.extend view visit = ⟨history.openings ++ [opening], left, found.2⟩ := by
    rw [History.extend, keeps.state, made]
  have other : alone.extendFresh view app.id app.config visit
      = ⟨alone.openings ++ [found.1], found.1.left, found.2⟩ := rfl
  rw [kept, other]
  have shown : (history.openings ++ [opening]).map Opening.shown
      = (alone.openings ++ [found.1]).map Opening.shown := by
    rw [List.map_append, List.map_append, keeps.shown]
    rfl
  obtain ⟨id, config⟩ := (visit.loads view (.fresh app.id app.config) alone.state).identity
  cases result : found.1.result with
  | ok value =>
      have taken : left = found.1.left := by
        simp only [left, Application.take, result]
      have succeeded : found.1.succeeded = true := by
        simp [Opening.succeeded, result, Except.toBool]
      rw [taken]
      refine ⟨shown, rfl, id, config, by simp, ?_⟩
      rw [List.filter_append, List.filter_cons_of_pos succeeded]
      simp
  | error error =>
      have taken : left = { history.app with settings := found.1.left.settings } := by
        simp only [left, Application.take, result]
      have failed : ¬ found.1.succeeded = true := by simp [Opening.succeeded, result, Except.toBool]
      rw [taken]
      refine ⟨shown, rfl, keeps.id, keeps.config, by simp, ?_⟩
      rw [List.filter_append, List.filter_cons_of_neg failed, List.filter_nil, List.append_nil]
      exact keeps.opened

/-- So do any number of visits. -/
theorem Keeps.extendAll {view : σ → Machine} {app : Application} {alone history : History σ}
    (keeps : Keeps app alone history) (visits : List (Visit σ)) :
    Keeps app (visits.foldl (History.extendFresh view app.id app.config) alone)
      (visits.foldl (History.extend view) history) := by
  induction visits generalizing alone history with
  | nil => exact keeps
  | cons visit rest ih => exact ih (keeps.extend visit)

/-- **An application keeps what its last opens loaded.** Let an application have any visits, with
anything happening to its surroundings before and during each of them. Every open has the events and
the result that it has by itself, on a fresh application with the same id and configuration in the
same surroundings. After the visits the settings are those of the last open, and profile, plugins
and records are all three those of the last open that succeeded; the id and the configuration are as
they were.

In each of these states an open loads what `Loads` says. If it succeeds it leaves the application as
if that had been fresh, and if it fails it changes the settings only. -/
theorem visits_keep_last (view : σ → Machine) (app : Application) (state : σ)
    (visits : List (Visit σ)) :
    Keeps app (visits.foldl (History.extendFresh view app.id app.config) (.start app state))
        (visits.foldl (History.extend view) (.start app state)) ∧
      ∀ (visit : Visit σ) (reached : Application) (now : σ),
        let made := visit.opening view reached now
        let alone := visit.opening view (.fresh reached.id reached.config) now
        Loads view visit (visit.meanwhile now) reached made.1 ∧
          made.1.shown = alone.1.shown ∧ made.2 = alone.2 ∧
          (made.1.result = .ok () → made.1.left = alone.1.left) := by
  constructor
  · have start : Keeps app (.start app state) (.start app state) :=
      ⟨rfl, rfl, rfl, rfl, rfl, rfl⟩
    exact start.extendAll visits
  · intro visit reached now made alone
    have same : made = _ := visit.opening_eq view reached now
    refine ⟨visit.loads view reached now, ?_, ?_, fun ok => ?_⟩
    · rw [same]
      rfl
    · rw [same]
    · rw [same] at ok ⊢
      have succeeded : alone.1.result = .ok () := ok
      simp only [alone, Application.take] at succeeded ⊢
      rw [succeeded]

end SessionHost.Engine
