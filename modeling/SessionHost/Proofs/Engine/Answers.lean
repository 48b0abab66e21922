import Mathlib.Control.Monad.Basic
import SessionHost.Proofs.Engine.Visits
import SessionHost.Proofs.FileSystem.Skeleton

/-!
What an open reports on.

An open asks its machine what is in the profile and which plugins there are. `SameAnswers` says that
two machines answer alike, and `SameAnswers.alike` that then the courses look alike to a host. From
this, `openings_alike`: what an open only stores does not show.
-/

namespace SessionHost.Engine

open Text Protocol Session FileSystem

/-! ### Names of manifests -/

/-- Whether a file name is that of a manifest. -/
def isManifestName (fileName : Bytes) : Bool :=
  Path.extension? fileName = some (encode Manifest.extension)

/-- The path of the manifest that a profile's plugin has. -/
def manifestPath (profile : Profile) (path : Path) (name : String) : Path :=
  (PluginEntry.named (Profile.pluginRoot profile.pluginDir path) name).path

/-- A name that ends as the names of manifests do. -/
def EndsAsManifest (fileName : Bytes) : Prop := encode ("." ++ Manifest.extension) <:+ fileName

theorem endsAsManifest_of_isManifestName {fileName : Bytes} (manifest : isManifestName fileName) :
    EndsAsManifest fileName :=
  ⟨Path.stem fileName, (Path.eq_stem_append (of_decide_eq_true manifest)).symm⟩

/-- The path of a plugin's manifest ends in such a name, whatever the plugin is called. -/
theorem endsAsManifest_manifestPath (profile : Profile) (path : Path) (name : String) :
    EndsAsManifest (lastSegment (manifestPath profile path name)) := by
  obtain ⟨before, ends⟩ : ∃ before,
      manifestPath profile path name = ⟨before ++ encode ("." ++ Manifest.extension)⟩ := by
    have named : encode (name ++ "." ++ Manifest.extension)
        = encode name ++ encode ("." ++ Manifest.extension) := by
      rw [String.append_assoc, encode_append]
    simp only [manifestPath, PluginEntry.named, Path.child, Path.join, Path.ofText, named]
    split
    · exact ⟨_, rfl⟩
    · split
      · exact ⟨_, congrArg Path.mk (List.append_assoc _ _ _).symm⟩
      · exact ⟨_, congrArg Path.mk (List.append_assoc _ (Path.slash :: encode name) _).symm⟩
  rw [ends]
  exact suffix_lastSegment (by decide) before

/-- Such a name can name something new: it is longer than dots that lead elsewhere. -/
theorem EndsAsManifest.namesExisting_eq {fileName : Bytes} (ends : EndsAsManifest fileName) :
    namesExisting fileName = false := by
  have long : 5 ≤ fileName.length := ends.length_le
  rcases fileName with _ | ⟨_, _ | ⟨_, _ | ⟨_, rest⟩⟩⟩
  · simp at long
  · simp at long
  · simp at long
  · simp [namesExisting, Path.isIdle]

/-! ### Answers -/

/-- Two machines answer alike what an open at a path asks: `reading` and `reading'` are their files
when the profile is read, `looking` and `looking'` those when its plugins are looked for. The
profile reads the same or cannot be read. If it lists no plugins, its directory shows manifests of
the same names, in any order, or cannot be shown; else the same of the plugins that it lists have a
file for a manifest. -/
structure SameAnswers (path : Path) (reading looking reading' looking' : FileSystem) : Prop where
  profile : (reading.read path).toOption = (reading'.read path).toOption
  listing : ∀ profile, Profile.load reading path = .ok profile → profile.plugins = [] →
    let root := Profile.pluginRoot profile.pluginDir path
    Option.Rel List.Perm ((looking.list root).toOption.map (·.filter isManifestName))
      ((looking'.list root).toOption.map (·.filter isManifestName))
  manifests : ∀ profile, Profile.load reading path = .ok profile → ∀ name ∈ profile.plugins,
    looking.isFile (manifestPath profile path name)
      = looking'.isFile (manifestPath profile path name)

/-- Trees with the same profile that show the same directories and the same files with names of
manifests answer alike. -/
theorem SameAnswers.of_sameSkeleton {path : Path} {reading looking reading' looking' : FileSystem}
    (profile : (reading.read path).toOption = (reading'.read path).toOption)
    (same : SameSkeleton EndsAsManifest looking looking') :
    SameAnswers path reading looking reading' looking' where
  profile := profile
  listing _ _ _ := same.list_rel fun _ => endsAsManifest_of_isManifestName
  manifests profile _ name _ :=
    have ends := endsAsManifest_manifestPath profile path name
    same.isFile_eq ends ends.namesExisting_eq

/-- Whether a profile can be loaded, and what it says, depends on what is in its file. -/
theorem toOption_load (files : FileSystem) (path : Path) :
    (Profile.load files path).toOption
      = (files.read path).toOption.bind fun content => decode? content >>= Profile.parse? := by
  simp only [Profile.load, readTextFile, FileSystem.readText]
  cases files.read path with
  | error error => rfl
  | ok content =>
      cases decoded : decode? content with
      | none => simp [bind, Except.bind, Except.mapError, Except.toOption, decoded]
      | some text =>
          cases parsed : Profile.parse? text with
          | none => simp [bind, Except.bind, Except.mapError, Except.toOption, decoded, parsed]
          | some profile =>
              simp [bind, Except.bind, Except.mapError, Except.toOption, decoded, parsed]

/-! ### Courses that look alike -/

/-- Two courses that a host cannot tell from one another: they fail at the same point, or come to
plugins of the same names in the same order. -/
inductive Course.Alike : Course → Course → Prop where
  | noProfile (error error' : Error) : Alike (.noProfile error) (.noProfile error')
  | noPlugins (error error' : Error) : Alike (.noPlugins error) (.noPlugins error')
  | opened {entries entries' : List PluginEntry}
      (names : entries.map (·.name) = entries'.map (·.name)) :
      Alike (.opened entries) (.opened entries')

theorem announced_eq_of_map_name {entries entries' : List PluginEntry}
    (names : entries.map (·.name) = entries'.map (·.name)) :
    announced entries = announced entries' := by
  have spelled (entries : List PluginEntry) : announced entries
      = ((entries.map (·.name)).zipIdx).map fun place =>
          ⟨encode place.1, place.2.toUInt64, (entries.map (·.name)).length.toUInt64⟩ := by
    rw [List.zipIdx_map, List.map_map, List.length_map]
    rfl
  rw [spelled, spelled, names]

theorem Course.Alike.events {found found' : Course} (alike : Alike found found') :
    found.events = found'.events := by
  cases alike with
  | noProfile => rfl
  | noPlugins => rfl
  | opened names => exact congrArg completed (announced_eq_of_map_name names)

theorem Course.Alike.opened_iff {found found' : Course} (alike : Alike found found') :
    (∃ entries, found = .opened entries) ↔ ∃ entries, found' = .opened entries := by
  cases alike <;> simp

/-- Scans of the same manifests come to the same names. -/
theorem map_name_scan_eq {root : Path} {fileNames others : List Bytes}
    (perm : (fileNames.filter isManifestName).Perm (others.filter isManifestName)) :
    (PluginEntry.scan root fileNames).map (·.name)
      = (PluginEntry.scan root others).map (·.name) := by
  have stems := perm.map fun fileName => lossy (Path.stem fileName)
  have names := (PluginEntry.map_name_scan_perm root fileNames).trans
    (stems.trans (PluginEntry.map_name_scan_perm root others).symm)
  -- Both scans are in the order of the names, and there is only one such order.
  refine names.eq_of_pairwise (fun a b _ _ => String.le_antisymm) ?_ ?_
  · exact List.pairwise_map.mpr (PluginEntry.pairwise_scan _ _)
  · exact List.pairwise_map.mpr (PluginEntry.pairwise_scan _ _)

/-- Files that answer alike about the plugins of a profile have plugins of the same names. -/
theorem discover_rel {looking looking' : FileSystem} {profile : Profile} {path : Path}
    (listing : profile.plugins = [] →
      let root := Profile.pluginRoot profile.pluginDir path
      Option.Rel List.Perm ((looking.list root).toOption.map (·.filter isManifestName))
        ((looking'.list root).toOption.map (·.filter isManifestName)))
    (manifests : ∀ name ∈ profile.plugins, looking.isFile (manifestPath profile path name)
      = looking'.isFile (manifestPath profile path name)) :
    Option.Rel (fun entries entries' => entries.map (·.name) = entries'.map (·.name))
      (discover looking profile.plugins profile.pluginDir path).toOption
      (discover looking' profile.plugins profile.pluginDir path).toOption := by
  by_cases lists : profile.plugins = []
  · have shown := listing lists
    simp only [discover, lists, List.isEmpty_nil, if_true] at shown ⊢
    generalize looking.list _ = listed at shown ⊢
    generalize looking'.list _ = listed' at shown ⊢
    rcases listed with cause | fileNames <;> rcases listed' with cause' | others
    · exact .none
    · cases shown
    · cases shown
    · cases shown with
      | some perm => exact .some (map_name_scan_eq perm)
  · have some : profile.plugins.isEmpty = false := by simpa using lists
    simp only [discover, some, Bool.false_eq_true, if_false]
    refine .some ?_
    rw [PluginEntry.map_name_filter_named _ looking.isFile,
      PluginEntry.map_name_filter_named _ looking'.isFile]
    exact List.filter_congr manifests

/-- **Machines that answer alike have courses that look alike.** -/
theorem SameAnswers.alike {path : Path} {reading looking reading' looking' : FileSystem}
    (same : SameAnswers path reading looking reading' looking') :
    (course reading looking path).Alike (course reading' looking' path) := by
  have loads : (Profile.load reading path).toOption = (Profile.load reading' path).toOption := by
    rw [toOption_load, toOption_load, same.profile]
  unfold course
  cases loaded : Profile.load reading path with
  | error error =>
      cases loaded' : Profile.load reading' path with
      | error error' => exact .noProfile error error'
      | ok profile => simp [loaded, loaded', Except.toOption] at loads
  | ok profile =>
      cases loaded' : Profile.load reading' path with
      | error error => simp [loaded, loaded', Except.toOption] at loads
      | ok other =>
          obtain rfl : profile = other := by
            simpa [loaded, loaded', Except.toOption] using loads
          have found := discover_rel (same.listing profile loaded) (same.manifests profile loaded)
          dsimp only
          generalize discover looking _ _ _ = entries at found ⊢
          generalize discover looking' _ _ _ = entries' at found ⊢
          rcases entries with error | entries <;> rcases entries' with error' | entries'
          · exact .noPlugins error error'
          · cases found
          · cases found
          · cases found with
            | some names => exact .opened names

/-! ### Openings -/

theorem Visit.succeeded_opening_iff {σ : Type} (view : σ → Machine) (visit : Visit σ)
    (app : Application) (state : σ) :
    (visit.opening view app state).1.succeeded = true ↔
      ∃ entries, course
        (view (visit.after [.loadSettings, .loadProfile] (visit.meanwhile state))).files
        (view (visit.after [.loadSettings, .loadProfile, .createRuntime]
          (visit.meanwhile state))).files visit.path = .opened entries := by
  have ok_iff (result : Except Error Unit) : result.toBool = true ↔ result = .ok () := by
    cases result <;> simp [Except.toBool]
  exact (ok_iff _).trans (Application.run_openProfile_eq_ok_iff view visit.listen app visit.path _)

/-- **What an open only stores does not show.** Two applications of any ids, configurations and
histories open the same path on two machines, with anything happening to these before and during
the opens. If the machines answer alike what an open asks, the opens have the same events, and both
succeed or both fail.

So it is in particular if the profile reads the same or cannot be read in both, and the machines
show the same directories and the same files with names of manifests. Settings, records and all
other files may be missing in the one or be different, and manifests may say anything. -/
theorem openings_alike {σ τ : Type} (view : σ → Machine) (view' : τ → Machine) (visit : Visit σ)
    (visit' : Visit τ) (app app' : Application) (state : σ) (state' : τ) (path : Path)
    (here : visit.path = path) (there : visit'.path = path) :
    let reading := (view (visit.after [.loadSettings, .loadProfile] (visit.meanwhile state))).files
    let looking := (view (visit.after [.loadSettings, .loadProfile, .createRuntime]
      (visit.meanwhile state))).files
    let reading' :=
      (view' (visit'.after [.loadSettings, .loadProfile] (visit'.meanwhile state'))).files
    let looking' := (view' (visit'.after [.loadSettings, .loadProfile, .createRuntime]
      (visit'.meanwhile state'))).files
    let made := (visit.opening view app state).1
    let made' := (visit'.opening view' app' state').1
    (SameAnswers path reading looking reading' looking' →
        made.events = made'.events ∧ made.succeeded = made'.succeeded) ∧
      ((reading.read path).toOption = (reading'.read path).toOption →
        SameSkeleton EndsAsManifest looking looking' →
        made.events = made'.events ∧ made.succeeded = made'.succeeded) := by
  subst here
  intro reading looking reading' looking' made made'
  have events : made.events = (course reading looking visit.path).events :=
    Application.sent_openProfile view visit.listen app visit.path _
  have events' : made'.events = (course reading' looking' visit'.path).events :=
    Application.sent_openProfile view' visit'.listen app' visit'.path _
  have general (same : SameAnswers visit.path reading looking reading' looking') :
      made.events = made'.events ∧ made.succeeded = made'.succeeded := by
    constructor
    · rw [events, events', there, same.alike.events]
    · rw [Bool.eq_iff_iff, visit.succeeded_opening_iff, visit'.succeeded_opening_iff, there]
      exact same.alike.opened_iff
  exact ⟨general, fun profile same => general (.of_sameSkeleton profile same)⟩

/-- A profile without plugins of its own is opened on three machines: one with settings, one on
which the settings and a manifest were spoilt, and one on which the plugin directory is shown in
another order and nothing else is left. -/
theorem openings_alike_spoilt :
    let profile : Bytes := encode "title = \"Game\"\n"
    let a : Location := [encode "plugins", encode "a.toml"]
    let b : Location := [encode "plugins", encode "b.toml"]
    let settings : Location := [encode "settings.json"]
    let path : Path := ⟨encode "game.toml"⟩
    let files : FileSystem :=
      { cwd := []
        nodes :=
          [([encode "game.toml"], .file profile), ([encode "plugins"], .directory),
            (a, .file []), (b, .file []), (settings, .file (encode "\x7b\"lang\": \"de\"\x7d"))]
        nodup := by decide +revert }
    let spoilt := (files.put settings (.file [0xFF])).put a (.file (encode "= ]"))
    let reordered : FileSystem :=
      { cwd := []
        nodes :=
          [(b, .file []), ([encode "game.toml"], .file profile), (a, .file []),
            ([encode "plugins"], .directory)]
        nodup := by decide +revert }
    let visit : Visit Machine := ⟨id, path, fun _ => id⟩
    let app : Application := .fresh "io.demo" { settingsDir := some "." }
    let other : Application := ⟨"io.other", {}, some ⟨"fr"⟩, none, [⟨"old", none⟩], []⟩
    let made (app : Application) (files : FileSystem) :=
      (visit.opening id app ⟨⟨none, none, none, none⟩, files⟩).1
    (files.read path).toOption = (spoilt.read path).toOption ∧
      SameSkeleton EndsAsManifest files spoilt ∧
      SameAnswers path files files reordered reordered ∧ (made app files).succeeded = true ∧
      (made app files).events = (made app spoilt).events ∧ (made app spoilt).succeeded = true ∧
      (made app files).events = (made other reordered).events ∧
      (made other reordered).succeeded = true := by
  intro profile a b settings path files spoilt reordered visit app other made
  have reads : (files.read path).toOption = (spoilt.read path).toOption := by decide +kernel
  have quiet : ∀ name ∈ settings.getLast?, ¬ EndsAsManifest name := by
    intro name member
    obtain rfl := Option.some.inj member
    unfold EndsAsManifest
    decide
  have skeleton : SameSkeleton EndsAsManifest files spoilt :=
    (SameSkeleton.put_file (by decide +kernel) (.inr quiet) _).trans
      (.put_file (by decide +kernel) (.inl (by decide +kernel)) _)
  have loads : Profile.load files path = .ok ⟨"Game", none, [], "plugins"⟩ := by decide +kernel
  have listed : files.list ⟨encode "plugins"⟩ = .ok [encode "a.toml", encode "b.toml"] := by
    decide +kernel
  have listed' : reordered.list ⟨encode "plugins"⟩ = .ok [encode "b.toml", encode "a.toml"] := by
    decide +kernel
  have root : Profile.pluginRoot "plugins" path = ⟨encode "plugins"⟩ := by decide
  have answers : SameAnswers path files files reordered reordered := by
    refine ⟨by decide +kernel, fun profile loaded _ => ?_, fun profile loaded name member => ?_⟩
    · obtain rfl := Except.ok.inj (loads.symm.trans loaded)
      simp only [root, listed, listed']
      exact .some (by decide)
    · obtain rfl := Except.ok.inj (loads.symm.trans loaded)
      cases member
  have found : discover files [] "plugins" path
      = .ok (PluginEntry.scan ⟨encode "plugins"⟩ [encode "a.toml", encode "b.toml"]) := by
    simp only [discover, List.isEmpty_nil, if_true, root, listed]
  have opens : ∃ entries, course files files path = .opened entries :=
    ⟨_, course_eq_opened_iff.mpr ⟨_, loads, found⟩⟩
  have succeeded : (made app files).succeeded = true :=
    (visit.succeeded_opening_iff id app _).mpr opens
  have changed := (openings_alike id id visit visit app app ⟨⟨none, none, none, none⟩, files⟩
    ⟨⟨none, none, none, none⟩, spoilt⟩ path rfl rfl).2 reads skeleton
  have moved := (openings_alike id id visit visit app other ⟨⟨none, none, none, none⟩, files⟩
    ⟨⟨none, none, none, none⟩, reordered⟩ path rfl rfl).1 answers
  exact ⟨reads, skeleton, answers, succeeded, changed.1, changed.2.symm.trans succeeded, moved.1,
    moved.2.symm.trans succeeded⟩

end SessionHost.Engine
