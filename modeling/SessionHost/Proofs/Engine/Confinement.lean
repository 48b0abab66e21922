import SessionHost.Proofs.Engine.Records
import SessionHost.Proofs.Engine.Relisting
import SessionHost.Proofs.FileSystem.Below

/-!
Where an open reads.

`Application.filesRead` lists the files that an open reads, and `opening_refill` says that nothing
else matters of what is in files. A profile has a say in this by the names of its plugins, by its
plugin directory and by its title, which are all joined to other paths as they are.
`reads_below_by_name` says how far below manifests and records then are, and `reads_elsewhere` that
names which are paths lead anywhere.
-/

namespace SessionHost.Engine

open Text Protocol FileSystem

/-! ### An open without disturbance -/

/-- An open during which nothing else happens. -/
def Visit.alone (path : Path) : Visit Machine := ⟨id, path, fun _ => id⟩

theorem run_loadPlugins_alone (machine : Machine) (count index : Nat)
    (entries : List PluginEntry) :
    (Application.loadPlugins count index entries).run id (fun _ => id) machine
      = (machine, entries.map (Application.loadPlugin machine)) := by
  induction entries generalizing index with
  | nil => rfl
  | cons entry rest ih =>
      simp only [Application.loadPlugins, Session.Script.run_bind, Session.Script.run_tell,
        Session.Script.run_observe, Session.Script.run_pure, ih, id_eq, List.map_cons]

/-- What an open comes to during which nothing else happens. -/
def Application.openedAlone (app : Application) (machine : Machine) (path : Path) : Opening :=
  let settled := { app with settings := some (app.loadSettings machine) }
  match Profile.load machine.files path with
  | .error error => ⟨[.loadSettings, .loadProfile], .error error, settled⟩
  | .ok profile =>
      match discover machine.files profile.plugins profile.pluginDir path with
      | .error error => ⟨[.loadSettings, .loadProfile, .createRuntime], .error error, settled⟩
      | .ok entries =>
          ⟨completed (announced entries), .ok (),
            { settled with
              profile := some profile
              plugins := entries.map (Application.loadPlugin machine)
              records := app.loadRecords machine profile }⟩

theorem opening_alone (app : Application) (machine : Machine) (path : Path) :
    ((Visit.alone path).opening id app machine).1 = app.openedAlone machine path := by
  have events := Application.sent_openProfile id (fun _ => id) app path machine
  simp only [Visit.opening, Visit.alone, id_eq] at events ⊢
  cases loaded : Profile.load machine.files path with
  | error error =>
      rw [events, course_eq_noProfile_iff.mpr loaded,
        Application.run_openProfile_of_noProfile id (fun _ => id) app path machine loaded]
      simp only [Application.openedAlone, loaded, Course.events, id_eq]
  | ok profile =>
      cases found : discover machine.files profile.plugins profile.pluginDir path with
      | error error =>
          rw [events, course_eq_noPlugins_iff.mpr ⟨profile, loaded, found⟩,
            Application.run_openProfile_of_noPlugins id (fun _ => id) app path machine loaded found]
          simp only [Application.openedAlone, loaded, found, Course.events, id_eq]
      | ok entries =>
          rw [events, course_eq_opened_iff.mpr ⟨profile, loaded, found⟩,
            Application.run_openProfile_of_opened id (fun _ => id) app path machine loaded found]
          simp only [Application.openedAlone, loaded, found, Course.events, id_eq,
            run_loadPlugins_alone]

/-! ### The files that are read -/

/-- The manifests that an open of a profile reads: those of the plugins that it finds. -/
def manifestsRead (files : FileSystem) (profile : Profile) (path : Path) : List Path :=
  match discover files profile.plugins profile.pluginDir path with
  | .ok entries => entries.map (·.path)
  | .error _ => []

namespace Application

/-- The file that settings are read from, if there is a place for it. -/
def settingsRead (app : Application) (env : Environment) : List Path :=
  match app.config.settingsDirectory env app.id with
  | .ok dir => [dir.child Settings.fileName]
  | .error _ => []

/-- The files that the records of a profile are read from. -/
def recordsRead (app : Application) (machine : Machine) (profile : Profile) : List Path :=
  match app.recordsDirectory machine profile with
  | .ok dir =>
      match machine.files.list dir with
      | .ok names => (SavedRecord.fileNames names).map fun name => dir.join ⟨name⟩
      | .error _ => []
  | .error _ => []

/-- All files that an open of the profile at a path reads, if it gets that far. -/
def filesRead (app : Application) (machine : Machine) (path : Path) : List Path :=
  app.settingsRead machine.environment ++ path ::
    match Profile.load machine.files path with
    | .ok profile => manifestsRead machine.files profile path ++ app.recordsRead machine profile
    | .error _ => []

end Application

section

variable {app : Application} {machine : Machine} {path : Path} {profile : Profile}
  {contents : Location → Bytes}

/-- The machine with other contents in its files. -/
def refilled (machine : Machine) (contents : Location → Bytes) : Machine :=
  { machine with files := machine.files.refill contents }

theorem loadSettings_refilled
    (kept : machine.files.ReadsAs contents (app.settingsRead machine.environment)) :
    app.loadSettings (refilled machine contents) = app.loadSettings machine := by
  unfold Application.loadSettings
  simp only [refilled]
  unfold Application.settingsRead at kept
  cases here : app.config.settingsDirectory machine.environment app.id with
  | error error => rfl
  | ok dir =>
      rw [here] at kept
      have read := read_refill_eq _ contents kept (List.mem_singleton_self _)
      simp only [Settings.load, readFile, read]

theorem load_refilled (kept : machine.files.ReadsAs contents [path]) :
    Profile.load (refilled machine contents).files path = Profile.load machine.files path := by
  have read := read_refill_eq _ contents kept (List.mem_singleton_self _)
  simp only [refilled, Profile.load, readTextFile, FileSystem.readText, read]

/-- The plugins that are found do not depend on what is in files. -/
theorem discover_refilled (plugins : List String) (pluginDir : String) :
    discover (refilled machine contents).files plugins pluginDir path
      = discover machine.files plugins pluginDir path := by
  simp only [refilled, discover, list_refill, isFile_refill]

theorem loadPlugin_refilled {entry : PluginEntry}
    (kept : machine.files.ReadsAs contents [entry.path]) :
    Application.loadPlugin (refilled machine contents) entry
      = Application.loadPlugin machine entry := by
  have read := read_refill_eq _ contents kept (List.mem_singleton_self _)
  simp only [refilled, Application.loadPlugin, Manifest.load, readTextFile, FileSystem.readText,
    read]

theorem loadRecords_refilled
    (kept : machine.files.ReadsAs contents (app.recordsRead machine profile)) :
    app.loadRecords (refilled machine contents) profile = app.loadRecords machine profile := by
  unfold Application.recordsRead at kept
  have place : app.recordsDirectory (refilled machine contents) profile
      = app.recordsDirectory machine profile := rfl
  unfold Application.loadRecords
  rw [place]
  cases here : app.recordsDirectory machine profile with
  | error error => rfl
  | ok dir =>
      have same : SavedRecord.loadAll (refilled machine contents).files dir
          = SavedRecord.loadAll machine.files dir := by
        simp only [refilled, SavedRecord.loadAll, list_refill]
        cases listed : machine.files.list dir with
        | error error => rfl
        | ok names =>
            simp only [here, listed] at kept
            refine mapM_congr fun name member => ?_
            have read := read_refill_eq _ contents kept (List.mem_map_of_mem member)
            simp only [SavedRecord.load, readFile, read]
      simp only [same]

/-- **Nothing but what is read matters.** An open comes to the same with any other contents in the
files that it does not read. -/
theorem opening_refill (kept : machine.files.ReadsAs contents (app.filesRead machine path)) :
    ((Visit.alone path).opening id app (refilled machine contents)).1
      = ((Visit.alone path).opening id app machine).1 := by
  rw [opening_alone, opening_alone]
  unfold Application.filesRead at kept
  have settings : app.loadSettings (refilled machine contents) = app.loadSettings machine :=
    loadSettings_refilled fun read member => kept read (List.mem_append_left _ member)
  have loads : Profile.load (refilled machine contents).files path
      = Profile.load machine.files path :=
    load_refilled fun read member => kept read (by simp_all)
  simp only [Application.openedAlone, settings, loads, discover_refilled]
  cases loaded : Profile.load machine.files path with
  | error error => rfl
  | ok profile =>
      simp only [loaded, manifestsRead] at kept ⊢
      cases found : discover machine.files profile.plugins profile.pluginDir path with
      | error error => rfl
      | ok entries =>
          simp only [found] at kept
          have plugins : entries.map (Application.loadPlugin (refilled machine contents))
              = entries.map (Application.loadPlugin machine) := by
            refine List.map_congr_left fun entry member => loadPlugin_refilled ?_
            intro read here
            obtain rfl := List.mem_singleton.mp here
            refine kept _ (List.mem_append_right _ (List.mem_cons_of_mem _ ?_))
            exact List.mem_append_left _ (List.mem_map_of_mem member)
          have records : app.loadRecords (refilled machine contents) profile
              = app.loadRecords machine profile := by
            refine loadRecords_refilled fun read member => kept read ?_
            refine List.mem_append_right _ (List.mem_cons_of_mem _ ?_)
            exact List.mem_append_right _ member
          simp only [plugins, records]

end

/-! ### How far below -/

section

variable {files : FileSystem} {path : Path} {profile : Profile} {manifest : Path}

/-- A name without a slash makes the name of a manifest. -/
theorem isName_manifest {name : String} (whole : Path.slash ∉ encode name) :
    Path.IsName (encode (name ++ "." ++ Manifest.extension)) := by
  have parts : encode (name ++ "." ++ Manifest.extension)
      = encode name ++ encode ("." ++ Manifest.extension) := by
    rw [String.append_assoc, encode_append]
  refine ⟨?_, EndsAsManifest.namesExisting_eq ⟨encode name, parts.symm⟩⟩
  rw [parts, List.mem_append, not_or]
  exact ⟨whole, by decide⟩

/-- A profile that lists no plugins has manifests read that its plugin directory shows. -/
theorem exists_fileName_of_manifestsRead (none : profile.plugins = [])
    (read : manifest ∈ manifestsRead files profile path) :
    let root := Profile.pluginRoot profile.pluginDir path
    ∃ fileNames fileName, files.list root = .ok fileNames ∧ fileName ∈ fileNames ∧
      manifest = root.join ⟨fileName⟩ := by
  intro root
  unfold manifestsRead at read
  rw [none] at read
  split at read
  · rename_i entries found
    obtain ⟨fileNames, listed, scanned⟩ := exists_scan_of_discover found
    obtain ⟨entry, member, rfl⟩ := List.mem_map.mp read
    rw [← scanned] at member
    obtain ⟨fileName, shown, scannedAs⟩ := PluginEntry.mem_scan.mp member
    refine ⟨fileNames, fileName, listed, shown, ?_⟩
    unfold PluginEntry.ofFileName? at scannedAs
    split at scannedAs
    · obtain rfl := Option.some.inj scannedAs
      rfl
    · cases scannedAs
  · cases read

/-- One that lists plugins has the manifests of these read that are files. -/
theorem exists_name_of_manifestsRead (some : profile.plugins ≠ [])
    (read : manifest ∈ manifestsRead files profile path) :
    ∃ name ∈ profile.plugins, manifest = manifestPath profile path name := by
  have lists : profile.plugins.isEmpty = false := by simpa using some
  unfold manifestsRead at read
  split at read
  · rename_i entries found
    simp only [discover, lists, Bool.false_eq_true, if_false, Except.ok.injEq] at found
    obtain ⟨entry, member, rfl⟩ := List.mem_map.mp read
    rw [← found] at member
    obtain ⟨name, listed, rfl⟩ := List.mem_map.mp (List.mem_of_mem_filter member)
    exact ⟨name, listed, rfl⟩
  · cases read

/-- The records of a profile are read from what the directory of its title shows. -/
theorem exists_fileName_of_recordsRead {app : Application} {machine : Machine} {base record : Path}
    (place : app.config.recordsDirectory machine.environment app.id = .ok base)
    (read : record ∈ app.recordsRead machine profile) :
    let dir := base.child profile.title
    ∃ fileNames fileName, machine.files.list dir = .ok fileNames ∧ fileName ∈ fileNames ∧
      record = dir.join ⟨fileName⟩ := by
  intro dir
  have here : app.recordsDirectory machine profile = .ok dir := by
    rw [Application.recordsDirectory, place]
    rfl
  unfold Application.recordsRead at read
  simp only [here] at read
  split at read
  · rename_i fileNames listed
    obtain ⟨fileName, member, rfl⟩ := List.mem_map.mp read
    exact ⟨fileNames, fileName, listed, (SavedRecord.mem_fileNames_iff.mp member).1, rfl⟩
  · cases read

end

/-- **A profile has files read below by its names.** In a tree where everything stands under names,
let a profile be loaded. Its manifests are directly below its plugin directory if it lists no
plugins, and if it lists plugins, those are whose names have no slash. Its records are directly
below a directory that is directly below that for records if the title of the profile is a name.
Else the name with the extension, and the title, are paths: if such a path stays below where it is
seen from, it leads as far below as its descent, and so directly below exactly if that is one name.

What is in other files than those that are read makes no difference to the open. -/
theorem reads_below_by_name (app : Application) {machine : Machine}
    (plain : machine.files.NamesPlain) {path : Path} {profile : Profile}
    (loaded : Profile.load machine.files path = .ok profile) :
    let files := machine.files
    let root := Profile.pluginRoot profile.pluginDir path
    (∀ contents, files.ReadsAs contents (app.filesRead machine path) →
      ((Visit.alone path).opening id app (refilled machine contents)).1
        = ((Visit.alone path).opening id app machine).1) ∧
      (∀ read ∈ app.filesRead machine path,
        read ∈ app.settingsRead machine.environment ∨ read = path ∨
          read ∈ manifestsRead files profile path ∨ read ∈ app.recordsRead machine profile) ∧
      (∀ manifest ∈ manifestsRead files profile path,
        (profile.plugins = [] → files.DirectlyBelow root manifest) ∧
          (profile.plugins ≠ [] → ∃ name ∈ profile.plugins,
            let fileName := Path.ofText (name ++ "." ++ Manifest.extension)
            manifest = root.join fileName ∧
              (Path.slash ∉ encode name → files.DirectlyBelow root manifest) ∧
              ∀ below, fileName.descent? = some below →
                files.aim manifest = files.aim root ++ below ∧
                  (files.DirectlyBelow root manifest ↔ below.length = 1))) ∧
      ∀ base, app.config.recordsDirectory machine.environment app.id = .ok base →
        ∀ record ∈ app.recordsRead machine profile,
          let dir := base.child profile.title
          files.DirectlyBelow dir record ∧
            (Path.IsName (encode profile.title) → files.DirectlyBelow base dir) ∧
            ∀ below, (Path.ofText profile.title).descent? = some below →
              files.aim dir = files.aim base ++ below ∧
                (files.DirectlyBelow base dir ↔ below.length = 1) := by
  intro files root
  refine ⟨fun contents kept => opening_refill kept, fun read member => ?_,
    fun manifest read => ⟨fun none => ?_, fun some => ?_⟩, fun base place record read => ?_⟩
  · simp only [Application.filesRead, loaded, List.mem_append, List.mem_cons] at member
    exact member
  · obtain ⟨fileNames, fileName, listed, shown, rfl⟩ := exists_fileName_of_manifestsRead none read
    exact directlyBelow_join_of_isName (plain.isName_of_list listed shown)
  · obtain ⟨name, member, rfl⟩ := exists_name_of_manifestsRead some read
    exact ⟨name, member, rfl, fun whole => directlyBelow_join_of_isName (isName_manifest whole),
      fun below descends => ⟨aim_join_of_descent? descends, directlyBelow_join_iff descends⟩⟩
  · obtain ⟨fileNames, fileName, listed, shown, rfl⟩ := exists_fileName_of_recordsRead place read
    exact ⟨directlyBelow_join_of_isName (plain.isName_of_list listed shown),
      fun name => directlyBelow_join_of_isName name,
      fun below descends => ⟨aim_join_of_descent? descends, directlyBelow_join_iff descends⟩⟩

/-- A profile lists a plugin by a plain name, one by a path that goes down and up again, and one by
a path into a directory. Its records are beside those of other profiles. -/
theorem reads_below_by_name_listed :
    let plugins := encode "plugins"
    let names := ["x", "sub/../y", "sub/z"]
    let path : Path := ⟨encode "game.toml"⟩
    let files : FileSystem :=
      { cwd := []
        nodes :=
          [([encode "game.toml"],
              .file (encode "title = \"a.b\"\nplugins = [\"x\", \"sub/../y\", \"sub/z\"]\n")),
            ([plugins], .directory), ([plugins, encode "x.toml"], .file []),
            ([plugins, encode "y.toml"], .file []), ([plugins, encode "sub"], .directory),
            ([plugins, encode "sub", encode "z.toml"], .file []),
            ([encode "save"], .directory), ([encode "save", encode "a.b"], .directory),
            ([encode "save", encode "a.b", encode "0.json"], .file (encode "[]"))]
        nodup := by decide +revert }
    let machine : Machine := ⟨⟨none, none, none, none⟩, files⟩
    let app : Application := .fresh "io.demo" { recordsDir := some "save" }
    let profile : Profile := ⟨"a.b", none, names, "plugins"⟩
    let root : Path := ⟨plugins⟩
    let base : Path := ⟨encode "save"⟩
    let dir := base.child "a.b"
    let record := dir.child "0.json"
    let fileName (name : String) := Path.ofText (name ++ "." ++ Manifest.extension)
    files.NamesPlain ∧ Profile.load files path = .ok profile ∧
      manifestsRead files profile path
        = ["plugins/x.toml", "plugins/sub/../y.toml", "plugins/sub/z.toml"].map Path.ofText ∧
      (∀ manifest ∈ manifestsRead files profile path, ∃ name ∈ names,
        manifest = root.join (fileName name) ∧ ∀ below, (fileName name).descent? = some below →
          (files.DirectlyBelow root manifest ↔ below.length = 1)) ∧
      (names.map fun name => (fileName name).descent?)
        = [some [encode "x.toml"], some [encode "y.toml"], some [encode "sub", encode "z.toml"]] ∧
      record ∈ app.recordsRead machine profile ∧ files.DirectlyBelow dir record ∧
      files.DirectlyBelow base dir := by
  intro plugins names path files machine app profile root base dir record fileName
  have plain : machine.files.NamesPlain := by decide +kernel
  have loaded : Profile.load machine.files path = .ok profile := by decide +kernel
  have inside : Profile.pluginRoot "plugins" path = root := by decide
  have place : app.config.recordsDirectory machine.environment app.id = .ok base := rfl
  have read : record ∈ app.recordsRead machine profile := by decide +kernel
  obtain ⟨-, -, manifests, records⟩ := reads_below_by_name app plain loaded
  obtain ⟨directly, titled, -⟩ := records _ place record read
  refine ⟨plain, loaded, by decide +kernel, fun manifest member => ?_, by decide +kernel, read,
    directly, titled (by decide)⟩
  obtain ⟨name, listed, joined, -, descends⟩ := (manifests manifest member).2 (by decide)
  refine ⟨name, listed, joined.trans ?_, fun below down => ?_⟩
  · exact congrArg (Path.join · (fileName name)) inside
  · have leads := (descends below down).2
    rwa [inside] at leads

/-- A profile can have files read elsewhere. It lists a plugin whose manifest is beside its plugin
directory. With each of six titles its records are in no directory directly below that for records:
in this directory itself, above it, beside it, at an absolute path, or further below. They are
read and kept all the same. -/
theorem reads_elsewhere :
    let tree : FileSystem :=
      { cwd := []
        nodes :=
          [([encode "plugins"], .directory),
            ([encode "x.toml"], .file (encode "version = \"1\"\n")),
            ([encode "0.json"], .file (encode "[]")),
            ([encode "save"], .directory), ([encode "save", encode "0.json"], .file (encode "[]")),
            ([encode "save", encode "a"], .directory),
            ([encode "save", encode "a", encode "b"], .directory),
            ([encode "save", encode "a", encode "b", encode "0.json"], .file (encode "[]")),
            ([encode "etc"], .directory), ([encode "etc", encode "0.json"], .file (encode "[]"))] }
    let files (title : String) : FileSystem :=
      tree.put [encode "game.toml"]
        (.file (encode ("title = \"" ++ title ++ "\"\nplugins = [\"../x\"]\n")))
    let path : Path := ⟨encode "game.toml"⟩
    let root : Path := ⟨encode "plugins"⟩
    let base : Path := ⟨encode "save"⟩
    let manifest : Path := ⟨encode "plugins/../x.toml"⟩
    let app : Application := .fresh "io.demo" { recordsDir := some "save" }
    ∀ title ∈ ["", ".", "..", "../etc", "/etc", "a/b"],
      let machine : Machine := ⟨⟨none, none, none, none⟩, files title⟩
      let profile : Profile := ⟨title, none, ["../x"], "plugins"⟩
      let dir := base.child title
      let record := dir.join ⟨encode "0.json"⟩
      let opened := ((Visit.alone path).opening id app machine).1
      (files title).NamesPlain ∧ Profile.load (files title) path = .ok profile ∧
        app.config.recordsDirectory machine.environment app.id = .ok base ∧
        manifest ∈ manifestsRead (files title) profile path ∧
        ¬ (files title).DirectlyBelow root manifest ∧
        record ∈ app.recordsRead machine profile ∧
        (files title).DirectlyBelow dir record ∧ ¬ (files title).DirectlyBelow base dir ∧
        opened.left.plugins = [⟨"../x", some ⟨some "1", none⟩⟩] ∧
          opened.left.records.length = 1 := by
  intro tree files path root base manifest app title member machine profile dir record opened
  have opens : opened = app.openedAlone machine path := opening_alone app machine path
  rw [opens]
  clear opens opened
  revert title
  decide +kernel

end SessionHost.Engine
