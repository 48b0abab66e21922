import SessionHost.Engine.Application
import SessionHost.Proofs.Engine.Discovery
import SessionHost.Proofs.Protocol.History
import SessionHost.Proofs.Session.Courses

/-!
How an open of a profile goes.

It depends on what the machine shows at two moments: when the profile is read and when its plugins
are looked for. `Application.sent_openProfile` says that the events of an open are those of its
course, whatever the application holds from earlier opens.
-/

namespace SessionHost.Engine

open Protocol Session

variable {σ : Type}

/-! ### Courses of an open -/

/-- How an open goes: the profile cannot be loaded, or its plugins cannot be listed, or these are
its plugins. -/
inductive Course where
  | noProfile (error : Error)
  | noPlugins (error : Error)
  | opened (entries : List PluginEntry)
deriving DecidableEq

/-- The course for the files that are there when the profile is read, and those that are there when
its plugins are looked for. -/
def course (reading looking : FileSystem) (path : Path) : Course :=
  match Profile.load reading path with
  | .error error => .noProfile error
  | .ok profile =>
      match discover looking profile.plugins profile.pluginDir path with
      | .error error => .noPlugins error
      | .ok entries => .opened entries

theorem course_eq_noProfile_iff {reading looking : FileSystem} {path : Path} {error : Error} :
    course reading looking path = .noProfile error ↔ Profile.load reading path = .error error := by
  unfold course
  cases Profile.load reading path with
  | error found => simp
  | ok profile =>
      cases found : discover looking profile.plugins profile.pluginDir path <;> simp [found]

theorem course_eq_noPlugins_iff {reading looking : FileSystem} {path : Path} {error : Error} :
    course reading looking path = .noPlugins error ↔
      ∃ profile, Profile.load reading path = .ok profile ∧
        discover looking profile.plugins profile.pluginDir path = .error error := by
  unfold course
  cases Profile.load reading path with
  | error found => simp
  | ok profile =>
      cases found : discover looking profile.plugins profile.pluginDir path <;> simp [found]

theorem course_eq_opened_iff {reading looking : FileSystem} {path : Path}
    {entries : List PluginEntry} :
    course reading looking path = .opened entries ↔
      ∃ profile, Profile.load reading path = .ok profile ∧
        discover looking profile.plugins profile.pluginDir path = .ok entries := by
  unfold course
  cases Profile.load reading path with
  | error found => simp
  | ok profile =>
      cases found : discover looking profile.plugins profile.pluginDir path <;> simp [found]

/-! ### Events -/

/-- What is said of entries, the first of which has the place `index` among `count`. -/
def announcedFrom (count index : Nat) (entries : List PluginEntry) : List PluginLoad :=
  (entries.zipIdx index).map fun place =>
    ⟨Text.encode place.1.name, place.2.toUInt64, count.toUInt64⟩

/-- What is said of all the entries of a profile. -/
def announced (entries : List PluginEntry) : List PluginLoad :=
  announcedFrom entries.length 0 entries

theorem length_announced (entries : List PluginEntry) :
    (announced entries).length = entries.length := by
  simp [announced, announcedFrom]

/-- The announcements count up, if a word can count the entries. -/
theorem countsUp_announced {entries : List PluginEntry} (few : entries.length < UInt64.size) :
    CountsUp (announced entries).length (announced entries) := by
  intro i inside
  have here : i < entries.length := length_announced entries ▸ inside
  rw [length_announced]
  simp only [announced, announcedFrom, List.getElem_map, List.getElem_zipIdx, Nat.zero_add]
  exact ⟨by simpa using Nat.mod_eq_of_lt (Nat.lt_trans here few),
    by simpa using Nat.mod_eq_of_lt few⟩

/-- The events of a course. -/
def Course.events : Course → List Event
  | noProfile _ => [.loadSettings, .loadProfile]
  | noPlugins _ => [.loadSettings, .loadProfile, .createRuntime]
  | opened entries => completed (announced entries)

namespace Application

/-- Each entry is announced in its place, whatever its manifest says. -/
theorem sent_loadPlugins (view : σ → Machine) (receive : Event → σ → σ) (count index : Nat)
    (entries : List PluginEntry) (state : σ) :
    (loadPlugins count index entries).sent view receive state
      = (announcedFrom count index entries).map .loadPlugin := by
  induction entries generalizing index state with
  | nil => rfl
  | cons entry rest ih =>
      simp only [loadPlugins, Script.sent_bind, Script.sent_tell, Script.sent_observe,
        Script.sent_pure, ih, announcedFrom, List.zipIdx_cons, List.map_cons, List.nil_append,
        List.append_nil, List.singleton_append]
      rfl

/-- **The events of an open are those of its course.** The profile is read after two events and the
plugins are looked for after a third. What these do to the machine is up to `receive`. -/
theorem sent_openProfile (view : σ → Machine) (receive : Event → σ → σ) (app : Application)
    (path : Path) (state : σ) :
    let started := receive .loadProfile (receive .loadSettings state)
    let created := receive .createRuntime started
    (app.openProfile path).sent view receive state
      = (course (view started).files (view created).files path).events := by
  intro started created
  simp only [openProfile, Script.sent_bind, Script.run_tell, Script.sent_tell, Script.run_observe,
    Script.sent_observe, List.singleton_append, List.nil_append]
  cases loaded : Profile.load (view started).files path with
  | error error =>
      simp only [started] at loaded
      simp only [course, started, loaded, Course.events, Script.sent_pure]
  | ok profile =>
      cases found : discover (view created).files profile.plugins profile.pluginDir path with
      | error error =>
          simp only [created, started] at loaded found
          simp only [course, created, started, loaded, found, Course.events, Script.sent_bind,
            Script.run_tell, Script.sent_tell, Script.run_observe, Script.sent_observe,
            Script.sent_pure, List.singleton_append, List.nil_append]
      | ok entries =>
          simp only [created, started] at loaded found
          simp only [course, created, started, loaded, found, Course.events, completed, opening,
            announced, Script.sent_bind, Script.run_tell, Script.sent_tell, Script.run_observe,
            Script.sent_observe, Script.sent_pure, sent_loadPlugins, List.nil_append,
            List.append_nil, List.cons_append]

/-- An open leaves the id and the configuration of an application as they are. -/
theorem run_openProfile_keeps (view : σ → Machine) (receive : Event → σ → σ) (app : Application)
    (path : Path) (state : σ) :
    let left := ((app.openProfile path).run view receive state).2.1
    left.id = app.id ∧ left.config = app.config := by
  simp only [openProfile, Script.run_bind, Script.run_tell, Script.run_observe]
  split
  · exact ⟨rfl, rfl⟩
  · simp only [Script.run_bind, Script.run_tell, Script.run_observe]
    split
    · exact ⟨rfl, rfl⟩
    · simp only [Script.run_bind, Script.run_tell, Script.run_observe, Script.run_pure, and_self]

end Application

end SessionHost.Engine
