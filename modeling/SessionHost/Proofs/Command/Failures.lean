import SessionHost.Command.Program
import SessionHost.Proofs.Config.Mapping

/-!
Configuration commands that fail.

Before a command writes it has done all else that can fail but for making directories. So what a
failure leaves behind are directories at most, which `Grows` says of the files, unless the writing
itself breaks off. `ConfigAction.Writes` says which file that is. Main statements:
`failed_configure_keeps_files`, and `failed_configure_loses_file` on a full disk.
-/

namespace SessionHost.Config

open FileSystem (Grows BrokenOff)

/-! ### Where failures come from -/

/-- Two steps fail if the first does, or if the second does with what the first came to. -/
theorem bind_eq_error_iff {ε α β : Type} {first : Except ε α} {next : α → Except ε β} {error : ε} :
    first >>= next = .error error ↔
      first = .error error ∨ ∃ found, first = .ok found ∧ next found = .error error := by
  cases first <;> simp [bind, Except.bind]

theorem map_eq_error_iff {ε α β : Type} {first : Except ε α} {f : α → β} {error : ε} :
    first.map f = .error error ↔ first = .error error := by
  cases first <;> simp [Except.map]

/-- The own directory is not found for one reason only. -/
theorem eq_of_ownDirectory_error {env : Environment} {error : Error}
    (lost : ownDirectory env = .error error) : error = .noPlatformDirectory "home" := by
  unfold ownDirectory at lost
  split at lost
  · cases lost
  · exact (Except.error.inj lost).symm

/-- For the same reason the configuration is not found. -/
theorem eq_of_path_error {machine : Machine} {error : Error}
    (lost : path machine = .error error) : error = .noPlatformDirectory "home" := by
  have lost := map_eq_error_iff.mp lost
  unfold resolve at lost
  split at lost
  · cases lost
  · rcases bind_eq_error_iff.mp lost with lost | ⟨pointer, -, lost⟩
    · exact eq_of_ownDirectory_error (map_eq_error_iff.mp lost)
    · split at lost
      · cases lost
      · rcases bind_eq_error_iff.mp lost with lost | ⟨home, -, lost⟩
        · exact eq_of_ownDirectory_error lost
        · cases lost

/-- No key is asked for when the configuration is loaded. -/
theorem load_ne_unknownKey (machine : Machine) (key : String) :
    load machine ≠ .error (.unknownKey key) := by
  intro failed
  rcases bind_eq_error_iff.mp failed with lost | ⟨target, -, failed⟩
  · cases eq_of_path_error lost
  · unfold loadFrom at failed
    split at failed
    · split at failed
      · cases failed
      · split at failed <;> cases failed
    · cases failed

/-- What is left behind when one of some files was to be written: new directories and no more, or the
file in which the writing broke off. -/
def LeftBehind (writes : Path → Bytes → Prop) (files changed : FileSystem) (error : Error) : Prop :=
  Grows files changed ∨ ∃ path content cause place, writes path content ∧
    error = .write path cause ∧ BrokenOff path content cause place files changed

/-- Either way no directory goes. -/
theorem LeftBehind.keepsDirectories {writes : Path → Bytes → Prop} {files changed : FileSystem}
    {error : Error} (left : LeftBehind writes files changed error) :
    FileSystem.KeepsDirectories files changed := by
  obtain grows | ⟨path, content, cause, place, -, -, broken⟩ := left
  · exact grows.keepsDirectories
  · exact broken.keepsDirectories

section

variable {writes : Path → Bytes → Prop} {machine : Machine} {changed : FileSystem} {error : Error}

/-- Storing fails with an error that is about the file. -/
theorem store_failed {files : FileSystem} {path : Path} {content : Bytes}
    (wrote : writes path content) (failed : store files path content = (changed, .error error)) :
    LeftBehind writes files changed error ∧ ∀ key, error ≠ .unknownKey key := by
  unfold store at failed
  generalize provided : files.provide path content = result at failed
  obtain ⟨after, outcome⟩ := result
  cases outcome with
  | ok done => cases (Prod.mk.inj failed).2
  | error cause =>
      obtain ⟨rfl, ended⟩ := Prod.mk.inj failed
      obtain rfl : Error.write path cause = error := Except.error.inj ended
      refine ⟨?_, fun key => Error.noConfusion⟩
      obtain grows | ⟨place, broken⟩ := FileSystem.provide_failed provided
      · exact .inl grows
      · exact .inr ⟨path, content, cause, place, wrote, rfl, broken⟩

/-- So does saving, if it gets to know the file. -/
theorem save_failed {config : Config}
    (wrote : ∀ target, path machine = .ok target → writes target (Text.encode config.render))
    (failed : config.save machine = (changed, .error error)) :
    LeftBehind writes machine.files changed error ∧ ∀ key, error ≠ .unknownKey key := by
  unfold save at failed
  split at failed
  · rename_i target found
    exact store_failed (wrote target found) failed
  · rename_i lost
    cases failed
    obtain rfl := eq_of_path_error lost
    exact ⟨.inl (.refl _), fun key => Error.noConfusion⟩

/-- And making the pointer file name a path. -/
theorem setPointer_failed {target : Path}
    (wrote : ∀ pointer, pointerPath machine.environment = .ok pointer →
      writes pointer (Text.encode target.display))
    (failed : setPointer machine target = (changed, .error error)) :
    LeftBehind writes machine.files changed error ∧ ∀ key, error ≠ .unknownKey key := by
  unfold setPointer at failed
  split at failed
  · rename_i lost
    cases failed
    obtain rfl := eq_of_ownDirectory_error (map_eq_error_iff.mp lost)
    exact ⟨.inl (.refl _), fun key => Error.noConfusion⟩
  · rename_i pointer found
    generalize stored : store machine.files pointer (Text.encode target.display) = result at failed
    obtain ⟨files, outcome⟩ := result
    cases outcome with
    | ok done => cases failed
    | error cause =>
        cases failed
        exact store_failed (wrote pointer found) stored

end

/-- What is done with the key of a name, once the configuration is loaded, fails because it could
not be loaded or because the name is no key. -/
theorem keyed_failed {α : Type} {machine : Machine} {name : String} {use : Config → Key → α}
    {error : Error}
    (failed : (load machine >>= fun config => (Config.key name).map (use config)) = .error error) :
    (∀ key, error ≠ .unknownKey key) ∨
      error = .unknownKey name ∧ name ∉ names ∧ ∃ config, load machine = .ok config := by
  rcases bind_eq_error_iff.mp failed with unloaded | ⟨config, loaded, refused⟩
  · exact .inl fun key same => load_ne_unknownKey machine key (same ▸ unloaded)
  · obtain ⟨unknown, same⟩ := key_eq_error_iff.mp (map_eq_error_iff.mp refused)
    exact .inr ⟨same, unknown, config, loaded⟩

/-- If it is loaded and the name is no key, it fails for that. -/
theorem keyed_of_notMem {α : Type} {machine : Machine} {name : String} {use : Config → Key → α}
    {config : Config} (loaded : load machine = .ok config) (unknown : name ∉ names) :
    (load machine >>= fun config => (Config.key name).map (use config))
      = .error (.unknownKey name) :=
  bind_eq_error_iff.mpr
    (.inr ⟨config, loaded, map_eq_error_iff.mpr (key_eq_error_iff.mpr ⟨unknown, rfl⟩)⟩)

end SessionHost.Config

namespace SessionHost.Command

open Text
open Config (LeftBehind)

/-- The name that an action asks for or sets. -/
def ConfigAction.name? : ConfigAction → Option String
  | get key => some key
  | set key _ => some key
  | _ => none

/-- The file that an action writes if it comes to that, and what it writes to it: the configuration
with the key set, or the path that the pointer file is to name. -/
def ConfigAction.Writes (machine : Machine) : ConfigAction → Path → Bytes → Prop
  | set key value, file, content =>
      ∃ config, (Config.load machine >>= fun loaded => loaded.set key value) = .ok config ∧
        Config.path machine = .ok file ∧ content = encode config.render
  | setPath target, file, content =>
      Config.pointerPath machine.environment = .ok file ∧ content = encode target.display
  | _, _, _ => False

section

variable {console after : Console} {error : Config.Error}

/-- Setting a key fails before anything is written, or in writing. -/
theorem setKey_failed {key value : String}
    (failed : setKey key value console = (after, .error error)) :
    (∃ files, after = withFiles console files ∧
        LeftBehind ((ConfigAction.set key value).Writes console.machine) console.machine.files files
          error) ∧
      ((∀ other, error ≠ .unknownKey other) ∨
        error = .unknownKey key ∧ key ∉ Config.names ∧
          ∃ config, Config.load console.machine = .ok config) := by
  unfold setKey at failed
  split at failed
  · rename_i refused
    cases failed
    exact ⟨⟨_, rfl, .inl (.refl _)⟩, Config.keyed_failed refused⟩
  · rename_i config set
    split at failed
    · rename_i files cause unsaved
      cases failed
      have wrote (target : Path) (found : Config.path console.machine = .ok target) :
          (ConfigAction.set key value).Writes console.machine target (encode config.render) :=
        ⟨config, set, found, rfl⟩
      obtain ⟨left, other⟩ := Config.save_failed wrote unsaved
      exact ⟨⟨files, rfl, left⟩, .inl other⟩
    · cases failed

/-- So does setting the path. -/
theorem setPath_failed {target : Path} (failed : setPath target console = (after, .error error)) :
    (∃ files, after = withFiles console files ∧
        LeftBehind ((ConfigAction.setPath target).Writes console.machine) console.machine.files
          files error) ∧
      ∀ other, error ≠ .unknownKey other := by
  unfold setPath at failed
  split at failed
  · rename_i files cause unset
    cases failed
    have wrote (pointer : Path)
        (found : Config.pointerPath console.machine.environment = .ok pointer) :
        (ConfigAction.setPath target).Writes console.machine pointer (encode target.display) :=
      ⟨found, rfl⟩
    obtain ⟨left, other⟩ := Config.setPointer_failed wrote unset
    exact ⟨⟨files, rfl, left⟩, other⟩
  · cases failed

/-- An action that fails leaves the console as it was but for what is left behind of the files, and
blames a name only if it is no key and the configuration was loaded. -/
theorem configure_failed {action : ConfigAction} {curious : Bool}
    (failed : configure action curious console = (after, .error error)) :
    (∃ files, after = withFiles console files ∧
        LeftBehind (action.Writes console.machine) console.machine.files files error) ∧
      ((∀ other, error ≠ .unknownKey other) ∨
        ∃ name, action.name? = some name ∧ error = .unknownKey name ∧ name ∉ Config.names ∧
          ∃ config, Config.load console.machine = .ok config) := by
  have unchanged : ∃ files, console = withFiles console files ∧
      LeftBehind (action.Writes console.machine) console.machine.files files error :=
    ⟨_, rfl, .inl (.refl _)⟩
  cases action with
  | «show» =>
      simp only [configure] at failed
      split at failed
      · rename_i unloaded
        cases failed
        exact ⟨unchanged, .inl fun other same =>
          Config.load_ne_unknownKey console.machine other (same ▸ unloaded)⟩
      · cases failed
  | get key =>
      simp only [configure] at failed
      split at failed
      · rename_i refused
        cases failed
        exact ⟨unchanged, (Config.keyed_failed refused).imp_right fun blamed => ⟨key, rfl, blamed⟩⟩
      · cases failed
      · cases failed
  | set key value =>
      obtain ⟨kept, blamed⟩ := setKey_failed failed
      exact ⟨kept, blamed.imp_right fun blamed => ⟨key, rfl, blamed⟩⟩
  | path =>
      simp only [configure] at failed
      split at failed
      · rename_i lost
        cases failed
        obtain rfl := Config.eq_of_path_error lost
        exact ⟨unchanged, .inl fun other => Config.Error.noConfusion⟩
      · cases failed
  | setPath target =>
      obtain ⟨kept, other⟩ := setPath_failed failed
      exact ⟨kept, .inl other⟩

/-- A name that is no key is blamed if the configuration is loaded. -/
theorem configure_of_notMem {action : ConfigAction} {name : String}
    (asked : action.name? = some name) (unknown : name ∉ Config.names) {config : Config}
    (loaded : Config.load console.machine = .ok config) (curious : Bool) :
    configure action curious console = (console, .error (.unknownKey name)) := by
  cases action with
  | get key =>
      obtain rfl := Option.some.inj asked
      have refused : (Config.load console.machine >>= fun config => config.get key)
          = .error (.unknownKey key) := Config.keyed_of_notMem loaded unknown
      simp only [configure, refused]
  | set key value =>
      obtain rfl := Option.some.inj asked
      have refused : (Config.load console.machine >>= fun config => config.set key value)
          = .error (.unknownKey key) := Config.keyed_of_notMem loaded unknown
      simp only [configure, setKey, refused]
  | _ => cases asked

/-- The exit code two is for a name that is no key, and one for all else. -/
theorem exitCode_config_cases (error : Config.Error) :
    ((Error.config error).exitCode = 2 ∧ ∃ name, error = .unknownKey name) ∨
      ((Error.config error).exitCode = 1 ∧ ∀ name, error ≠ .unknownKey name) := by
  cases error with
  | unknownKey key => exact .inl ⟨rfl, key, rfl⟩
  | _ => exact .inr ⟨rfl, fun name => Config.Error.noConfusion⟩

end

/-- **A configuration command that fails changes no file**, unless the writing of its file breaks off.
Nothing is printed or logged, and all directories are kept. Every file that stood somewhere still
stands there with its content, and can be read along every path along which it could be; no other
file stands anywhere, and all that can be new are directories. Otherwise the error is about writing,
the file that the command writes has the beginning of what was to be written to it, and all this
holds of every other file.

The error is about a name exactly if the configuration was loaded and the command has a name that is
none of the four keys. It has the exit code two then, and one otherwise. -/
theorem failed_configure_keeps_files {action : ConfigAction} {curious : Bool}
    {console after : Console} {error : Config.Error}
    (failed : configure action curious console = (after, .error error)) :
    let files := console.machine.files
    let later := after.machine.files
    after = withFiles console later ∧
    (∀ place, files.node? place = some .directory → later.node? place = some .directory) ∧
    ((∀ place content,
        later.node? place = some (.file content) ↔ files.node? place = some (.file content)) ∧
      (∀ path content, files.read path = .ok content → later.read path = .ok content) ∨
    ∃ path content cause place room, action.Writes console.machine path content ∧
      error = .write path cause ∧ later.locate path = .ok place ∧
      (files.refusals place).filling = some (room, cause) ∧ room < content.length ∧
      later.node? place = some (.file (content.take room)) ∧
      (∀ other bytes, other ≠ place →
        (later.node? other = some (.file bytes) ↔ files.node? other = some (.file bytes))) ∧
      ∀ other bytes, files.locate other ≠ .ok place →
        files.read other = .ok bytes → later.read other = .ok bytes) ∧
    (∀ name, error = .unknownKey name ↔
      (∃ config, Config.load console.machine = .ok config) ∧ action.name? = some name ∧
        name ∉ ["app-id", "settings-dir", "records-dir", "log-dir"]) ∧
    (((Error.config error).exitCode = 2 ∧ ∃ name, error = .unknownKey name) ∨
      ((Error.config error).exitCode = 1 ∧ ∀ name, error ≠ .unknownKey name)) := by
  intro files later
  obtain ⟨⟨made, rfl, left⟩, blamed⟩ := configure_failed failed
  refine ⟨rfl, left.keepsDirectories, ?_, fun name => ?_, exitCode_config_cases error⟩
  · obtain grows | ⟨path, content, cause, place, writes, same, broken⟩ := left
    · exact .inl ⟨fun place content => ⟨grows.file place content, grows.kept place _⟩,
        fun path content => grows.read_of_read⟩
    · obtain ⟨room, limited, short, stands⟩ := broken.part
      exact .inr ⟨path, content, cause, place, room, writes, same, broken.leads, limited, short,
        stands, broken.elsewhere, fun other bytes => broken.read_of_read⟩
  · constructor
    · rintro rfl
      rcases blamed with other | ⟨asked, named, same, unknown, loaded⟩
      · exact absurd rfl (other name)
      · obtain rfl := Config.Error.unknownKey.inj same
        exact ⟨loaded, named, unknown⟩
    · rintro ⟨⟨config, loaded⟩, named, unknown⟩
      have refused := configure_of_notMem named unknown loaded curious
      exact Except.error.inj (Prod.mk.inj (failed.symm.trans refused)).2

/-- The variable names a directory that is made on the way to it, beside a file that is kept. On a
full disk it names a file, of which four bytes are left. -/
theorem failed_configure_keeps_files_beside :
    let target : Path := ⟨encode "new/sub/.."⟩
    let saved : Path := ⟨encode "b.toml"⟩
    let files : FileSystem :=
      { cwd := []
        nodes :=
          [([encode "a.toml"], .file (encode "a")),
            ([encode "b.toml"], .file (encode "log-dir = \"logs\"\n"))]
        refusals := fun _ => { filling := some (4, .noSpace) } }
    let console (named : Path) : Console :=
      Console.fresh ⟨⟨some (encode "home"), none, none, some named.bytes⟩, files⟩ "noon" false
    let action : ConfigAction := .set "app-id" "io.demo"
    (∃ after,
      configure action false (console target) = (after, .error (.write target .isADirectory)) ∧
        (Error.config (.write target .isADirectory)).exitCode = 1 ∧
        after.machine.files.isDirectory ⟨encode "new/sub"⟩ = true ∧
        after.machine.files.read ⟨encode "a.toml"⟩ = .ok (encode "a") ∧ after.err = []) ∧
      ∃ after,
        configure action false (console saved) = (after, .error (.write saved .noSpace)) ∧
          (Error.config (.write saved .noSpace)).exitCode = 1 ∧
          after.machine.files.read saved = .ok (encode "app-") ∧
          after.machine.files.read ⟨encode "a.toml"⟩ = .ok (encode "a") := by
  intro target saved files console action
  have read : files.read ⟨encode "a.toml"⟩ = .ok (encode "a") := by decide +kernel
  constructor
  · have failed : (configure action false (console target)).2
        = .error (.write target .isADirectory) := by
      decide +kernel
    have made : (configure action false (console target)).1.machine.files.isDirectory
        ⟨encode "new/sub"⟩ = true := by
      decide +kernel
    generalize came : configure action false (console target) = result at failed made
    obtain ⟨after, outcome⟩ := result
    obtain rfl : outcome = .error (.write target .isADirectory) := failed
    obtain ⟨alike, -, ⟨-, reads⟩ | broken, -, exits⟩ := failed_configure_keeps_files came
    · refine ⟨after, rfl, ?_, made, reads _ _ read, by rw [alike]; rfl⟩
      exact (exits.resolve_left fun two => absurd two.1 (by decide)).1
    · obtain ⟨path, content, cause, place, room, -, same, -, limited, -⟩ := broken
      obtain ⟨-, rfl⟩ := Config.Error.write.inj same
      cases limited
  · have failed : (configure action false (console saved)).2 = .error (.write saved .noSpace) := by
      decide +kernel
    have leads : (configure action false (console saved)).1.machine.files.locate saved
        = .ok [encode "b.toml"] := by
      decide +kernel
    have part : (configure action false (console saved)).1.machine.files.read saved
        = .ok (encode "app-") := by
      decide +kernel
    generalize came : configure action false (console saved) = result at failed leads part
    obtain ⟨after, outcome⟩ := result
    obtain rfl : outcome = .error (.write saved .noSpace) := failed
    obtain ⟨-, -, ⟨-, reads⟩ | broken, -, exits⟩ := failed_configure_keeps_files came
    · have whole : files.read saved = .ok (encode "log-dir = \"logs\"\n") := by decide +kernel
      have still := reads _ _ whole
      rw [part] at still
      exact absurd still (by decide)
    · obtain ⟨path, content, cause, place, room, -, same, found, -, -, -, -, reads⟩ := broken
      obtain ⟨rfl, -⟩ := Config.Error.write.inj same
      obtain rfl := Except.ok.inj (leads.symm.trans found)
      refine ⟨after, rfl, ?_, part, reads _ _ (by decide +kernel) read⟩
      exact (exits.resolve_left fun two => absurd two.1 (by decide)).1

/-- On a full disk a command that fails loses the configuration that was saved, and makes an empty
file where there was none. Another command fails without touching a file, but the program that
carries it out has begun a new log by then. -/
theorem failed_configure_loses_file :
    let target : Path := ⟨encode "c.toml"⟩
    let log : Path := ⟨encode "home/.config/stagehand/stagehand.log"⟩
    let saved := encode "log-dir = \"logs\"\n"
    let full : FileSystem :=
      { cwd := []
        nodes := [([encode "c.toml"], .file saved)]
        refusals := fun _ => { filling := some (0, .noSpace) } }
    let bare : FileSystem := { full with nodes := [], nodup := List.nodup_nil }
    let logged : FileSystem :=
      { cwd := []
        nodes :=
          [([encode "home"], .directory), ([encode "home", encode ".config"], .directory),
            ([encode "home", encode ".config", encode "stagehand"], .directory),
            ([encode "home", encode ".config", encode "stagehand", encode "stagehand.log"],
              .file (encode "old\n"))]
        nodup := by decide +revert }
    let console (files : FileSystem) : Console :=
      Console.fresh ⟨⟨some (encode "home"), none, none, some target.bytes⟩, files⟩ "noon" false
    let failed (files : FileSystem) : Console × Except Config.Error Unit :=
      configure (.set "app-id" "io.demo") false (console files)
    ((failed full).2 = .error (.write target .noSpace) ∧
      full.read target = .ok saved ∧ (failed full).1.machine.files.read target = .ok []) ∧
    ((failed bare).2 = .error (.write target .noSpace) ∧
      bare.read target = .error .notFound ∧
      (failed bare).1.machine.files.read target = .ok []) ∧
    (configure (.get "nope") false (console logged)).2 = .error (.unknownKey "nope") ∧
    logged.read log = .ok (encode "old\n") ∧
    ∃ later, run [encode "config", encode "get", encode "nope"] (console logged) = .exit 2 later ∧
      later.machine.files.read log
        = .ok (encode "[noon] ERROR Unknown config key 'nope'\n") := by
  intro target log saved full bare logged console failed
  have ran : (match run [encode "config", encode "get", encode "nope"] (console logged) with
      | .exit code later => some (code, later.machine.files.read log)
      | _ => none) = some (2, .ok (encode "[noon] ERROR Unknown config key 'nope'\n")) := by
    decide +kernel
  refine ⟨by decide +kernel, by decide +kernel, by decide +kernel, by decide +kernel, ?_⟩
  revert ran
  split
  · rename_i code later ended
    intro ran
    obtain ⟨rfl, read⟩ := Prod.mk.inj (Option.some.inj ran)
    exact ⟨later, ended, read⟩
  · intro none
    cases none

end SessionHost.Command
